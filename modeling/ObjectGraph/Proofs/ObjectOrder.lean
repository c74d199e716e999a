import ObjectGraph.Obj.Order
import ObjectGraph.Proofs.KeyOrder

/-! The natural order of objects is a total one, in which only an object itself stands where it stands.

Each law is proved of objects and of their parts at once, along the first object. Sequences are ordered at
their first difference, so what holds of the heads and of the rests holds of the whole.
-/

set_option autoImplicit false
namespace ObjectGraph

/-! No two objects stand at one place -/

theorem IntType.eq_of_ctorIdx {t u : IntType} (same : t.ctorIdx = u.ctorIdx) : t = u := by
  cases t <;> cases u <;> first | rfl | cases same

theorem ScalarType.eq_of_rank {t u : ScalarType} (same : t.rank = u.rank) : t = u := by
  cases t <;> cases u <;> grind [rank, IntType.eq_of_ctorIdx]

theorem KeyType.eq_of_scalar {t u : KeyType} (same : t.scalar = u.scalar) : t = u := by
  cases t <;> cases u <;> cases same <;> rfl

theorem Ty.eq_of_code {t u : Ty} (same : t.code = u.code) : t = u := by
  have text {a b : String} (chars : a.toList.map Char.toNat = b.toList.map Char.toNat) : a = b :=
    String.toList_inj.mp ((List.map_inj_right fun _ _ => Char.toNat_inj.mp).mp chars)
  fun_induction code t generalizing u <;> fun_cases code u <;>
    grind [code, ScalarType.eq_of_rank, KeyType.eq_of_scalar]

theorem Ty.eq_of_order {t u : Ty} (same : t.order u = .eq) : t = u :=
  Ty.eq_of_code (Std.LawfulEqOrd.eq_of_compare same)

theorem Key.eq_of_order {k l : Key} (same : k.order l = .eq) : k = l := by
  unfold order at same
  split at same
  · assumption
  · split at same <;> cases same

theorem Scalar.eq_of_order {a b : Scalar} (types : a.type = b.type) (same : a.order b = .eq) : a = b := by
  cases a <;> cases b <;> cases types <;>
    simp only [order, Std.LawfulEqOrd.compare_eq_iff_eq] at same <;> rw [same]

mutual

theorem Obj.eq_of_orderParts (o p : Obj) (types : o.ty = p.ty) (parts : o.orderParts p = .eq) : o = p := by
  -- Objects of one type have one shape, so only like shapes are left to compare.
  cases o with
  | scalar a =>
    cases p with
    | scalar b => rw [Scalar.eq_of_order (Ty.scalar.inj types) parts]
    | _ => cases types
  | list _ _ items =>
    cases p with
    | list _ _ others =>
      cases types
      rw [eq_of_orderItems items others parts]
    | _ => cases types
  | array _ _ items =>
    cases p with
    | array _ _ others =>
      cases types
      rw [eq_of_orderItems items others parts]
    | _ => cases types
  | map _ _ _ entries =>
    cases p with
    | map _ _ _ others =>
      cases types
      rw [eq_of_orderEntries entries others parts]
    | _ => cases types
  | set _ _ members =>
    cases p with
    | set _ _ others =>
      cases types
      rw [eq_of_orderItems members others parts]
    | _ => cases types
  | bean _ fields =>
    cases p with
    | bean _ others =>
      cases types
      rw [eq_of_orderFields fields others parts]
    | _ => cases types

theorem eq_of_orderItems (items others : List Obj) (same : orderItems items others = .eq) :
    items = others := by
  cases items with
  | nil => cases others <;> first | rfl | cases same
  | cons o items =>
    cases others with
    | nil => cases same
    | cons p others =>
      simp only [orderItems, Ordering.then_eq_eq] at same
      obtain ⟨⟨types, parts⟩, rest⟩ := same
      rw [o.eq_of_orderParts p (Ty.eq_of_order types) parts, eq_of_orderItems items others rest]

theorem eq_of_orderEntries (entries others : List (Key × Obj)) (same : orderEntries entries others = .eq) :
    entries = others := by
  match entries, others with
  | [], [] => rfl
  | [], _ :: _ => cases same
  | _ :: _, [] => cases same
  | (k, o) :: entries, (l, p) :: others =>
    simp only [orderEntries, Ordering.then_eq_eq] at same
    obtain ⟨keys, ⟨types, parts⟩, rest⟩ := same
    rw [Key.eq_of_order keys, o.eq_of_orderParts p (Ty.eq_of_order types) parts,
      eq_of_orderEntries entries others rest]

theorem eq_of_orderFields (fields others : List (String × Option Obj))
    (same : orderFields fields others = .eq) : fields = others := by
  match fields, others with
  | [], [] => rfl
  | [], _ :: _ => cases same
  | _ :: _, [] => cases same
  | (m, v) :: fields, (n, w) :: others =>
    simp only [orderFields, Ordering.then_eq_eq] at same
    obtain ⟨names, values, rest⟩ := same
    rw [Std.LawfulEqOrd.eq_of_compare names, eq_of_orderOption v w values,
      eq_of_orderFields fields others rest]

theorem eq_of_orderOption (v w : Option Obj) (same : orderOption v w = .eq) : v = w := by
  match v, w with
  | none, none => rfl
  | none, some _ => cases same
  | some _, none => cases same
  | some o, some p =>
    simp only [orderOption, Ordering.then_eq_eq] at same
    rw [o.eq_of_orderParts p (Ty.eq_of_order same.1) same.2]

end

theorem Obj.eq_of_order {o p : Obj} (same : o.order p = .eq) : o = p := by
  obtain ⟨types, parts⟩ := Ordering.then_eq_eq.mp same
  exact o.eq_of_orderParts p (Ty.eq_of_order types) parts

/-! The other way round -/

theorem Ty.order_swap (t u : Ty) : u.order t = (t.order u).swap :=
  Std.OrientedOrd.eq_swap

theorem Key.order_swap (k l : Key) : l.order k = (k.order l).swap := by
  unfold order
  by_cases same : k = l
  · simp [same]
  · rcases k.before_total l with before | equal | after
    · simp [before, before_asymm before, same, Ne.symm same]
    · exact absurd equal same
    · simp [after, before_asymm after, same, Ne.symm same]

theorem Scalar.order_swap (a b : Scalar) : b.order a = (a.order b).swap := by
  cases a <;> cases b <;> first | rfl | exact Std.OrientedOrd.eq_swap

mutual

theorem Obj.orderParts_swap (o p : Obj) : p.orderParts o = (o.orderParts p).swap := by
  -- Objects of unlike shapes are equal in their parts, either way round.
  cases o with
  | scalar a =>
    cases p with
    | scalar b => exact a.order_swap b
    | _ => rfl
  | list _ _ items =>
    cases p with
    | list _ _ others => exact orderItems_swap items others
    | _ => rfl
  | array _ _ items =>
    cases p with
    | array _ _ others => exact orderItems_swap items others
    | _ => rfl
  | map _ _ _ entries =>
    cases p with
    | map _ _ _ others => exact orderEntries_swap entries others
    | _ => rfl
  | set _ _ members =>
    cases p with
    | set _ _ others => exact orderItems_swap members others
    | _ => rfl
  | bean _ fields =>
    cases p with
    | bean _ others => exact orderFields_swap fields others
    | _ => rfl

theorem orderItems_swap (items others : List Obj) :
    orderItems others items = (orderItems items others).swap := by
  match items, others with
  | [], [] | [], _ :: _ | _ :: _, [] => rfl
  | o :: items, p :: others =>
    simp only [orderItems, Ordering.swap_then, ← Ty.order_swap, ← o.orderParts_swap p,
      ← orderItems_swap items others]

theorem orderEntries_swap (entries others : List (Key × Obj)) :
    orderEntries others entries = (orderEntries entries others).swap := by
  match entries, others with
  | [], [] | [], _ :: _ | _ :: _, [] => rfl
  | (k, o) :: entries, (l, p) :: others =>
    simp only [orderEntries, Ordering.swap_then, ← Key.order_swap, ← Ty.order_swap, ← o.orderParts_swap p,
      ← orderEntries_swap entries others]

theorem orderFields_swap (fields others : List (String × Option Obj)) :
    orderFields others fields = (orderFields fields others).swap := by
  match fields, others with
  | [], [] | [], _ :: _ | _ :: _, [] => rfl
  | (m, v) :: fields, (n, w) :: others =>
    simp only [orderFields, Ordering.swap_then, ← orderOption_swap v w, ← orderFields_swap fields others]
    rw [Std.OrientedOrd.eq_swap (a := n)]

theorem orderOption_swap (v w : Option Obj) : orderOption w v = (orderOption v w).swap := by
  match v, w with
  | none, none | none, some _ | some _, none => rfl
  | some o, some p =>
    simp only [orderOption, Ordering.swap_then, ← Ty.order_swap, ← o.orderParts_swap p]

end

theorem Obj.order_swap (o p : Obj) : p.order o = (o.order p).swap := by
  rw [order, order, Ordering.swap_then, ← Ty.order_swap, ← orderParts_swap]

/-! One after another -/

/-- Sequences stand one after another if their heads do, or are the same and the rests do. -/
theorem then_lt_trans {α : Type} (order : α → α → Ordering) (apart : ∀ {a b}, order a b = .eq → a = b)
    {a b c : α} (heads : order a b = .lt → order b c = .lt → order a c = .lt) {x y z : Ordering}
    (rests : x = .lt → y = .lt → z = .lt) (first : (order a b).then x = .lt)
    (second : (order b c).then y = .lt) : (order a c).then z = .lt := by
  rw [Ordering.then_eq_lt] at first second ⊢
  rcases first with less | ⟨same, less⟩
  · rcases second with less' | ⟨same', _⟩
    · exact .inl (heads less less')
    · exact .inl (apart same' ▸ less)
  · rcases second with less' | ⟨same', less'⟩
    · exact .inl (apart same ▸ less')
    · exact .inr ⟨apart same' ▸ same, rests less less'⟩

theorem Ty.order_trans {t u v : Ty} (first : t.order u = .lt) (second : u.order v = .lt) :
    t.order v = .lt := by
  unfold order at first second ⊢
  exact Std.TransCmp.lt_trans first second

theorem Key.order_eq_lt {k l : Key} : k.order l = .lt ↔ k.before l = true := by
  unfold order
  by_cases same : k = l
  · simp [same, l.before_irrefl]
  · simp [same]

theorem Key.order_trans {k l m : Key} (first : k.order l = .lt) (second : l.order m = .lt) :
    k.order m = .lt := by
  rw [order_eq_lt] at first second ⊢
  exact before_trans first second

theorem Scalar.order_trans {a b c : Scalar} (first : a.order b = .lt) (second : b.order c = .lt) :
    a.order c = .lt := by
  cases a <;> cases b <;> first
    | cases first
    | cases c <;> first
      | cases second
      | simp only [order] at first second ⊢; exact Std.TransCmp.lt_trans first second

mutual

theorem Obj.orderParts_trans (o p q : Obj) (first : o.orderParts p = .lt) (second : p.orderParts q = .lt) :
    o.orderParts q = .lt := by
  -- Only objects of one shape can stand one before the other in their parts.
  cases o with
  | scalar =>
    cases p with
    | scalar =>
      cases q with
      | scalar => exact Scalar.order_trans first second
      | _ => cases second
    | _ => cases first
  | list _ _ items =>
    cases p with
    | list _ _ others =>
      cases q with
      | list _ _ third => exact orderItems_trans items others third first second
      | _ => cases second
    | _ => cases first
  | array _ _ items =>
    cases p with
    | array _ _ others =>
      cases q with
      | array _ _ third => exact orderItems_trans items others third first second
      | _ => cases second
    | _ => cases first
  | map _ _ _ entries =>
    cases p with
    | map _ _ _ others =>
      cases q with
      | map _ _ _ third => exact orderEntries_trans entries others third first second
      | _ => cases second
    | _ => cases first
  | set _ _ members =>
    cases p with
    | set _ _ others =>
      cases q with
      | set _ _ third => exact orderItems_trans members others third first second
      | _ => cases second
    | _ => cases first
  | bean _ fields =>
    cases p with
    | bean _ others =>
      cases q with
      | bean _ third => exact orderFields_trans fields others third first second
      | _ => cases second
    | _ => cases first

theorem orderItems_trans (items others third : List Obj) (first : orderItems items others = .lt)
    (second : orderItems others third = .lt) : orderItems items third = .lt := by
  match items, others, third with
  | _, [], [] => cases second
  | _, _ :: _, [] => cases second
  | [], _, _ :: _ => rfl
  | _ :: _, [], _ :: _ => cases first
  | o :: items, p :: others, q :: third =>
    exact then_lt_trans Obj.order Obj.eq_of_order
      (then_lt_trans Ty.order Ty.eq_of_order Ty.order_trans (o.orderParts_trans p q))
      (orderItems_trans items others third) first second

theorem orderEntries_trans (entries others third : List (Key × Obj))
    (first : orderEntries entries others = .lt) (second : orderEntries others third = .lt) :
    orderEntries entries third = .lt := by
  match entries, others, third with
  | _, [], [] => cases second
  | _, _ :: _, [] => cases second
  | [], _, _ :: _ => rfl
  | _ :: _, [], _ :: _ => cases first
  | (k, o) :: entries, (l, p) :: others, (m, q) :: third =>
    exact then_lt_trans Key.order Key.eq_of_order Key.order_trans
      (then_lt_trans Obj.order Obj.eq_of_order
        (then_lt_trans Ty.order Ty.eq_of_order Ty.order_trans (o.orderParts_trans p q))
        (orderEntries_trans entries others third)) first second

theorem orderFields_trans (fields others third : List (String × Option Obj))
    (first : orderFields fields others = .lt) (second : orderFields others third = .lt) :
    orderFields fields third = .lt := by
  match fields, others, third with
  | _, [], [] => cases second
  | _, _ :: _, [] => cases second
  | [], _, _ :: _ => rfl
  | _ :: _, [], _ :: _ => cases first
  | (_, v) :: fields, (_, w) :: others, (_, x) :: third =>
    exact then_lt_trans compare Std.LawfulEqOrd.eq_of_compare Std.TransCmp.lt_trans
      (then_lt_trans orderOption (eq_of_orderOption _ _) (orderOption_trans v w x)
        (orderFields_trans fields others third)) first second

theorem orderOption_trans (v w x : Option Obj) (first : orderOption v w = .lt)
    (second : orderOption w x = .lt) : orderOption v x = .lt := by
  match v, w, x with
  | _, none, none => cases second
  | _, some _, none => cases second
  | none, _, some _ => rfl
  | some _, none, some _ => cases first
  | some o, some p, some q =>
    exact then_lt_trans Ty.order Ty.eq_of_order Ty.order_trans (o.orderParts_trans p q) first second

end

theorem Obj.order_trans {o p q : Obj} (first : o.order p = .lt) (second : p.order q = .lt) :
    o.order q = .lt :=
  then_lt_trans Ty.order Ty.eq_of_order Ty.order_trans (o.orderParts_trans p q) first second

/-! Equality -/

namespace Obj

variable {o p : Obj}

theorem order_eq_iff : o.order p = .eq ↔ o = p := by
  constructor
  · exact eq_of_order
  · rintro rfl
    have swapped := o.order_swap o
    cases standing : o.order o <;> simp_all

instance : DecidableEq Obj := fun _ _ => decidable_of_iff _ order_eq_iff

theorem order_gt_iff : o.order p = .gt ↔ p.order o = .lt := by
  rw [o.order_swap p, Ordering.swap_eq_lt]

end Obj

theorem Members.has_iff {o : Obj} {members : Members} : has o members = true ↔ o ∈ members := by
  simp [has, Obj.order_eq_iff]

end ObjectGraph
