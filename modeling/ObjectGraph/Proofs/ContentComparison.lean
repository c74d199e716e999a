import ObjectGraph.Proofs.Comparison
import ObjectGraph.Proofs.Content
import ObjectGraph.Proofs.Declared
import ObjectGraph.Sample.Beans

/-! What comparison decides: whether two objects have the same content.

Each comparison of parts decides whether the parts have the same content, and `Decides` carries this
through the loops: along positions for lists, arrays and fields, along the keys of the first map, along
the members of the first set. The two loops that look at one side only miss nothing, since keys and
members do not repeat and there are as many on both sides.
-/

set_option autoImplicit false
namespace ObjectGraph

/-! Deciding -/

/-- The answer is given, and it is yes just when the property holds. -/
def Decides (answer : Option Bool) (property : Prop) : Prop :=
  ∃ yes, answer = some yes ∧ (yes = true ↔ property)

namespace Decides

variable {answer rest : Option Bool} {p q : Prop}

theorem congr (decides : Decides answer p) (same : p ↔ q) : Decides answer q := by
  obtain ⟨yes, given, means⟩ := decides
  exact ⟨yes, given, means.trans same⟩

theorem no (refuted : ¬ p) : Decides (some false) p := by
  refine ⟨false, rfl, ?_⟩
  simp [refuted]

theorem of_bool {yes : Bool} (means : yes = true ↔ p) : Decides (some yes) p :=
  ⟨yes, rfl, means⟩

theorem thenCompare (first : Decides answer p) (second : Decides rest q) :
    Decides (thenCompare answer rest) (p ∧ q) := by
  obtain ⟨yes, rfl, means⟩ := first
  cases yes with
  | true =>
    have holds : p := means.mp rfl
    exact second.congr (by simp [holds])
  | false =>
    have fails : ¬ p := fun holds => Bool.noConfusion (means.mpr holds)
    exact .no fun both => fails both.1

theorem eq_true_iff (decides : Decides answer p) : answer = some true ↔ p := by
  obtain ⟨yes, rfl, means⟩ := decides
  rw [Option.some.injEq, means]

theorem eq_false_iff (decides : Decides answer p) : answer = some false ↔ ¬ p := by
  obtain ⟨yes, rfl, means⟩ := decides
  rw [Option.some.injEq, ← means, Bool.not_eq_true]

end Decides

theorem Scalar.decides_equals {a b : Scalar} (defined : a.Defined) (defined' : b.Defined) :
    Decides (some (a.equals b)) (a.SameValue b) := by
  apply Decides.of_bool
  -- All but the numbers of one floating-point type are compared exactly.
  have exactly (plain : a.equals b = (a == b)) (only : a.SameValue b → a = b) :
      a.equals b = true ↔ a.SameValue b := by
    rw [plain, beq_iff_eq]
    exact ⟨fun same => same ▸ .same a, only⟩
  cases a with
  | f32 x =>
    cases b with
    | f32 y =>
      refine (Decimal.BinaryFormat.equals_decode (by decide) x.toNat_lt y.toNat_lt defined defined').trans ?_
      constructor
      · rintro (same | ⟨zero, zero'⟩)
        · exact UInt32.toNat_inj.mp same ▸ .same (.f32 x)
        · exact .zeros32 zero zero'
      · intro same
        cases same with
        | same => exact .inl rfl
        | zeros32 zero zero' => exact .inr ⟨zero, zero'⟩
    | _ => exact exactly rfl (by rintro ⟨⟩)
  | f64 x =>
    cases b with
    | f64 y =>
      refine (Decimal.BinaryFormat.equals_decode (by decide) x.toNat_lt y.toNat_lt defined defined').trans ?_
      constructor
      · rintro (same | ⟨zero, zero'⟩)
        · exact UInt64.toNat_inj.mp same ▸ .same (.f64 x)
        · exact .zeros64 zero zero'
      · intro same
        cases same with
        | same => exact .inl rfl
        | zeros64 zero zero' => exact .inr ⟨zero, zero'⟩
    | _ => exact exactly rfl (by rintro ⟨⟩)
  | _ => cases b <;> exact exactly rfl (by rintro ⟨⟩ <;> rfl)

/-! Derived equality -/

section Derived
variable {layouts : Layouts}

theorem Layouts.derived_derived (layouts : Layouts) : layouts.derived.derived = layouts.derived := by
  funext type
  cases declared : layouts type <;> simp [derived, declared]

theorem compareFields_derived (fields others : Fields) :
    compareFields layouts.derived fields others = compareFields layouts fields others := by
  induction fields generalizing others with
  | nil => cases others <;> rfl
  | cons f fields ih =>
    obtain ⟨n, v⟩ := f
    cases others with
    | nil => cases v <;> rfl
    | cons g others =>
      obtain ⟨n', w⟩ := g
      cases v <;> cases w <;> simp only [compareFields, ih, layouts.derived_derived]

theorem compareItems_congr {other : Layouts} {items others : List Obj}
    (same : ∀ o ∈ items, ∀ p, o.compare? layouts p = o.compare? other p) :
    compareItems layouts items others = compareItems other items others := by
  induction items generalizing others with
  | nil => cases others <;> rfl
  | cons o items ih =>
    rw [List.forall_mem_cons] at same
    cases others with
    | nil => rfl
    | cons p others => rw [compareItems, compareItems, same.1, ih same.2]

theorem compareEntries_congr {other : Layouts} {entries : Entries} {view : MapView}
    (same : ∀ e ∈ entries, ∀ p, e.2.compare? layouts p = e.2.compare? other p) :
    compareEntries layouts entries view = compareEntries other entries view := by
  induction entries with
  | nil => rfl
  | cons e entries ih =>
    obtain ⟨k, o⟩ := e
    rw [List.forall_mem_cons] at same
    simp only [compareEntries, ih same.2, same.1]

/-- Where every bean can be compared, comparison is the derived equality. -/
theorem Obj.Comparable.compare?_derived {a : Obj} (comparable : a.Comparable layouts) (b : Obj) :
    a.compare? layouts.derived b = a.compare? layouts b := by
  induction comparable generalizing b with
  | scalar => cases b <;> rfl
  | list _ ih => cases b <;> simp only [compare?, compareItems_congr ih]
  | array _ ih => cases b <;> simp only [compare?, compareItems_congr ih]
  | map _ ih => cases b <;> simp only [compare?, compareEntries_congr ih]
  | set => cases b <;> rfl
  | @bean type _ _ declared comparable =>
    have answers : ((layouts type).map Layout.comparable).getD false = true := by
      simp [declared, comparable]
    have answers' : ((layouts.derived type).map Layout.comparable).getD false = true := by
      simp [Layouts.derived, declared]
    cases b <;> simp only [compare?, answers, answers', if_true, compareFields_derived]

end Derived

section Loops
variable {layouts : Layouts}

def Obj.Settled (layouts : Layouts) (o p : Obj) : Prop :=
  Decides (o.compare? layouts p) (o.SameContent p)

theorem decides_compareItems {items others : List Obj} (length : items.length = others.length)
    (settled : ∀ (i : Nat) o p, items[i]? = some o → others[i]? = some p → o.Settled layouts p) :
    Decides (compareItems layouts items others)
      (∀ (i : Nat) o p, items[i]? = some o → others[i]? = some p → o.SameContent p) := by
  induction items generalizing others with
  | nil =>
    refine .of_bool ?_
    simp
  | cons o items ih =>
    cases others with
    | nil => cases length
    | cons p others =>
      have first : o.Settled layouts p := settled 0 o p rfl rfl
      have rest := ih (Nat.succ.inj length) fun i o p => settled (i + 1) o p
      refine (first.thenCompare rest).congr ?_
      constructor
      · rintro ⟨first, rest⟩ (_ | i) o' p' found found'
        · cases found
          cases found'
          exact first
        · exact rest i o' p' found found'
      · intro all
        exact ⟨all 0 o p rfl rfl, fun i => all (i + 1)⟩

theorem decides_compareSequences {items others : List Obj}
    (settled : ∀ (i : Nat) o p, items[i]? = some o → others[i]? = some p → o.Settled layouts p) :
    Decides (if items.length = others.length then compareItems layouts items others else some false)
      (items.length = others.length ∧
        ∀ (i : Nat) o p, items[i]? = some o → others[i]? = some p → o.SameContent p) := by
  by_cases length : items.length = others.length
  · rw [if_pos length]
    exact (decides_compareItems length settled).congr (by simp [length])
  · rw [if_neg length]
    exact .no fun both => length both.1

theorem compareFields_iff {fields others : Fields} (length : fields.length = others.length)
    (settled : ∀ (i : Nat) n n' o p, fields[i]? = some (n, some o) → others[i]? = some (n', some p) →
      o.Settled layouts.derived p) :
    compareFields layouts fields others = true ↔
      (fields.map fun f => f.2.isSome) = (others.map fun f => f.2.isSome) ∧
      ∀ (i : Nat) n n' o p, fields[i]? = some (n, some o) → others[i]? = some (n', some p) →
        o.SameContent p := by
  induction fields generalizing others with
  | nil =>
    cases others with
    | nil => simp [compareFields]
    | cons => cases length
  | cons f fields ih =>
    cases others with
    | nil => cases length
    | cons g others =>
      have rest := ih (Nat.succ.inj length) fun i n n' o p => settled (i + 1) n n' o p
      -- What is asked of all positions is asked of the first one and of those behind it.
      have shift : (∀ (i : Nat) n n' o p, (f :: fields)[i]? = some (n, some o) →
          (g :: others)[i]? = some (n', some p) → o.SameContent p) ↔
          (∀ o p, f.2 = some o → g.2 = some p → o.SameContent p) ∧
          ∀ (i : Nat) n n' o p, fields[i]? = some (n, some o) → others[i]? = some (n', some p) →
            o.SameContent p := by
        constructor
        · intro all
          refine ⟨?_, fun i => all (i + 1)⟩
          intro o p found found'
          exact all 0 f.1 g.1 o p (by simp [← found]) (by simp [← found'])
        · rintro ⟨first, rest⟩ (_ | i) n n' o p found found'
          · cases found
            cases found'
            exact first o p rfl rfl
          · exact rest i n n' o p found found'
      rw [List.map_cons, List.map_cons, List.cons.injEq, shift]
      obtain ⟨n, v⟩ := f
      obtain ⟨n', w⟩ := g
      cases v with
      | none =>
        cases w with
        | none => simpa [compareFields] using rest
        | some p => simp [compareFields]
      | some o =>
        cases w with
        | none => simp [compareFields]
        | some p =>
          have first : o.compare? layouts.derived p = some true ↔ o.SameContent p :=
            (settled 0 n n' o p rfl rfl).eq_true_iff
          rw [compareFields, Bool.and_eq_true, beq_iff_eq, first, rest]
          simp [and_left_comm]

theorem decides_compareEntries {entries : Entries} {other : MapView}
    (settled : ∀ e ∈ entries, ∀ p, other.get? e.1.text = some p → e.2.Settled layouts p) :
    Decides (compareEntries layouts entries other)
      (∀ e ∈ entries, ∃ p, other.get? e.1.text = some p ∧ e.2.SameContent p) := by
  induction entries with
  | nil =>
    refine .of_bool ?_
    simp
  | cons e entries ih =>
    obtain ⟨k, o⟩ := e
    rw [List.forall_mem_cons] at settled ⊢
    rw [compareEntries]
    cases found : other.get? k.text with
    | none => exact .no (by rintro ⟨⟨p, ⟨⟩, _⟩, _⟩)
    | some p =>
      have first : o.Settled layouts p := settled.1 p found
      refine (first.thenCompare (ih settled.2)).congr ?_
      simp

end Loops

/-! One side is enough -/

theorem subset_iff_of_nodup {α : Type} {l l' : List α} (nodup : l.Nodup) (length : l.length = l'.length) :
    l ⊆ l' ↔ ∀ x, x ∈ l ↔ x ∈ l' := by
  constructor
  · intro sub x
    constructor
    · intro member
      exact sub member
    · intro member
      exact subset_of_length_le nodup sub (Nat.le_of_eq length.symm) member
  · intro same x member
    exact (same x).mp member

theorem length_eq_of_nodup {α : Type} {l l' : List α} (nodup : l.Nodup) (nodup' : l'.Nodup)
    (same : ∀ x, x ∈ l ↔ x ∈ l') : l.length = l'.length :=
  ((List.perm_ext_iff_of_nodup nodup nodup').mpr same).length_eq

namespace Obj

theorem sameContent_set {kind kind' : SetKind} {item item' : Ty} {members others : Members}
    (nodup : members.Nodup) (nodup' : others.Nodup) :
    (members.length = others.length ∧ ∀ o ∈ members, item' = item ∧ o ∈ others) ↔
      (Obj.set kind item members).SameContent (.set kind' item' others) := by
  constructor
  · rintro ⟨length, contained⟩
    cases members with
    | nil =>
      cases List.eq_nil_of_length_eq_zero length.symm
      exact .emptySets
    | cons o members =>
      have sub : (o :: members) ⊆ others := fun o member => (contained o member).2
      obtain rfl : item' = item := (contained o List.mem_cons_self).1
      exact .sets ((subset_iff_of_nodup nodup length).mp sub)
  · intro same
    cases same with
    | emptySets => simp
    | sets same =>
      exact ⟨length_eq_of_nodup nodup nodup' same, fun o member => ⟨rfl, (same o).mp member⟩⟩

end Obj

theorem Obj.sameContent_map {kind kind' : MapKind} {key key' : KeyType} {value value' : Ty}
    {entries others : Entries} (nodup : (Entries.keys entries).Nodup)
    (length : entries.length = others.length) :
    (∀ e ∈ entries, ∃ p, Entries.get? e.1 others = some p ∧ e.2.SameContent p) ↔
      (Obj.map kind key value entries).SameContent (.map kind' key' value' others) := by
  have lengths : (Entries.keys entries).length = (Entries.keys others).length := by
    simpa [Entries.keys] using length
  constructor
  · intro matched
    refine .map ((subset_iff_of_nodup nodup lengths).mp ?_) ?_
    · intro k member
      obtain ⟨e, eMember, rfl⟩ := List.mem_map.mp member
      obtain ⟨p, found, _⟩ := matched e eMember
      exact List.mem_map.mpr ⟨(e.1, p), Entries.mem_of_get? found, rfl⟩
    · intro k o p found found'
      obtain ⟨p', other, same⟩ := matched (k, o) (Entries.mem_of_get? found)
      cases found'.symm.trans other
      exact same
  · intro same e member
    cases same with
    | map keys values =>
      obtain ⟨p, found⟩ := Entries.get?_of_mem_keys ((keys e.1).mp (List.mem_map_of_mem member))
      exact ⟨p, found, values e.1 e.2 p (Entries.get?_of_mem nodup member) found⟩

theorem MapView.get?_text {kind : MapKind} {value : Ty} {entries : Entries} {k : Key}
    (typed : k.hasType .str = true) :
    (MapView.mk kind .str value entries).get? k.text = Entries.get? k entries := by
  rw [get?, Key.read?_text typed]

/-! All content -/

/-- A well-typed object whose containers repeat no key and no member, and which can be compared. -/
structure Schema.Comparable (s : Schema) (o : Obj) : Prop where
  typed : s.WellTyped o
  keyed : o.Keyed
  comparable : o.Comparable s.layouts

namespace Schema

variable {s : Schema} {a b : Obj}

namespace Comparable

theorem of_list {kind : ListKind} {item : Ty} {items : List Obj} {o : Obj}
    (whole : s.Comparable (.list kind item items)) (member : o ∈ items) : s.Comparable o := by
  obtain ⟨typed, keyed, comparable⟩ := whole
  cases typed with
  | list _ typed =>
  cases keyed with
  | list keyed =>
  cases comparable with
  | list comparable => exact ⟨typed o member, keyed o member, comparable o member⟩

theorem of_array {kind : ArrayKind} {item : Ty} {items : List Obj} {o : Obj}
    (whole : s.Comparable (.array kind item items)) (member : o ∈ items) : s.Comparable o := by
  obtain ⟨typed, keyed, comparable⟩ := whole
  cases typed with
  | array _ _ typed =>
  cases keyed with
  | array keyed =>
  cases comparable with
  | array comparable => exact ⟨typed o member, keyed o member, comparable o member⟩

theorem of_map {kind : MapKind} {key : KeyType} {value : Ty} {entries : Entries} {e : Key × Obj}
    (whole : s.Comparable (.map kind key value entries)) (member : e ∈ entries) : s.Comparable e.2 := by
  obtain ⟨typed, keyed, comparable⟩ := whole
  cases typed with
  | map _ _ typed =>
  cases keyed with
  | map _ _ keyed =>
  cases comparable with
  | map comparable => exact ⟨typed e member, keyed e member, comparable e member⟩

theorem of_bean {type : String} {fields : Fields} {name : String} {o : Obj}
    (whole : s.Comparable (.bean type fields)) (member : (name, some o) ∈ fields) : s.Comparable o := by
  obtain ⟨typed, keyed, comparable⟩ := whole
  cases typed with
  | bean _ _ _ typed =>
  cases keyed with
  | bean keyed =>
  cases comparable with
  | bean _ _ comparable =>
    exact ⟨typed _ member o rfl, keyed _ member o rfl, comparable _ member o rfl⟩

theorem names_eq {type : String} {fields others : Fields} (left : s.Comparable (.bean type fields))
    (right : s.Comparable (.bean type others)) : Fields.names fields = Fields.names others := by
  cases left.typed with
  | bean declared names =>
  cases right.typed with
  | bean declared' names' =>
    cases declared.symm.trans declared'
    rw [names, names']

theorem settled (left : s.Comparable a) (right : s.Comparable b) : a.Settled s.layouts b := by
  unfold Obj.Settled
  have comparable := left.comparable
  -- Along the first object: its parts are compared with parts of the second one.
  induction comparable generalizing b with
  | scalar defined =>
    cases right.comparable with
    | scalar defined' =>
      refine (Scalar.decides_equals defined defined').congr ⟨.scalar, ?_⟩
      intro same
      cases same with
      | scalar same => exact same
    | _ => exact .no (by rintro ⟨⟩)
  | list _ ih =>
    cases right.comparable with
    | list =>
      refine (decides_compareSequences ?_).congr ⟨fun both => .list both.1 both.2, ?_⟩
      · intro i o p found found'
        have member := List.mem_of_getElem? found
        exact ih o member (left.of_list member) (right.of_list (List.mem_of_getElem? found'))
      · intro same
        cases same with
        | list length same => exact ⟨length, same⟩
    | _ => exact .no (by rintro ⟨⟩)
  | array _ ih =>
    cases right.comparable with
    | array =>
      refine (decides_compareSequences ?_).congr ⟨fun both => .array both.1 both.2, ?_⟩
      · intro i o p found found'
        have member := List.mem_of_getElem? found
        exact ih o member (left.of_array member) (right.of_array (List.mem_of_getElem? found'))
      · intro same
        cases same with
        | array length same => exact ⟨length, same⟩
    | _ => exact .no (by rintro ⟨⟩)
  | @map kind value entries _ ih =>
    cases right.comparable with
    | @map kind' value' others =>
      cases left.keyed with
      | map texts nodup =>
      cases right.keyed with
      | map _ nodup' =>
      rw [Obj.compare?]
      by_cases length : entries.length = others.length
      · rw [if_pos length]
        have read (e : Key × Obj) (member : e ∈ entries) :
            (MapView.mk kind' .str value' others).get? e.1.text = Entries.get? e.1 others :=
          MapView.get?_text (texts e.1 (List.mem_map_of_mem member))
        refine (decides_compareEntries ?_).congr ?_
        · intro e member p found
          rw [read e member] at found
          exact ih e member (left.of_map member) (right.of_map (Entries.mem_of_get? found))
        · refine Iff.trans ?_ (Obj.sameContent_map nodup length)
          refine forall₂_congr fun e member => ?_
          rw [read e member]
      · rw [if_neg length]
        refine .no fun same => length ?_
        cases same with
        | map keys => simpa [Entries.keys] using length_eq_of_nodup nodup nodup' keys
    | _ => exact .no (by rintro ⟨⟩)
  | set =>
    cases right.comparable with
    | set =>
      cases left.keyed with
      | set members nodup =>
      cases right.keyed with
      | set _ nodup' =>
      refine .of_bool ?_
      rw [Bool.and_eq_true, beq_iff_eq, SetView.all_contains members]
      exact Obj.sameContent_set nodup nodup'
    | _ => exact .no (by rintro ⟨⟩)
  | @bean type layout fields declared comparable _ ih =>
    have answers : ((s.layouts type).map Layout.comparable).getD false = true := by
      rw [declared, Option.map_some, Option.getD_some, comparable]
    cases right.comparable with
    | @bean other _ others =>
      rw [Obj.compare?, if_pos answers]
      by_cases same : type = other
      · subst same
        have names := left.names_eq right
        rw [beq_self_eq_true, Bool.true_and]
        refine .of_bool ((compareFields_iff ?_ ?_).trans ⟨fun both => .bean names both.1 both.2, ?_⟩)
        · simpa [Fields.names] using congrArg List.length names
        · intro i n n' o p found found'
          have member := List.mem_of_getElem? found
          have part := left.of_bean member
          rw [Obj.Settled, part.comparable.compare?_derived]
          exact ih _ member o rfl part (right.of_bean (List.mem_of_getElem? found'))
        · intro same
          cases same with
          | bean _ present same => exact ⟨present, same⟩
      · rw [beq_eq_false_iff_ne.mpr same, Bool.false_and]
        refine .no ?_
        rintro ⟨⟩
        exact same rfl
    | _ =>
      simp only [Obj.compare?, if_pos answers]
      exact .no (by rintro ⟨⟩)

end Comparable

/-- Comparison decides whether two objects have the same content, and so is an equivalence. -/
theorem compare?_decides_content (s : Schema) :
    (∀ a b, s.Comparable a → s.Comparable b →
      (a.compare? s.layouts b = some true ↔ a.SameContent b) ∧
      (a.compare? s.layouts b = some false ↔ ¬ a.SameContent b)) ∧
    Equivalence fun a b : { o // s.Comparable o } => a.1.compare? s.layouts b.1 = some true := by
  have equal (a b : { o // s.Comparable o }) :
      a.1.compare? s.layouts b.1 = some true ↔ a.1.SameContent b.1 := (a.2.settled b.2).eq_true_iff
  refine ⟨?_, ?_, ?_, ?_⟩
  · intro a b left right
    have settled : a.Settled s.layouts b := left.settled right
    exact ⟨settled.eq_true_iff, settled.eq_false_iff⟩
  · intro a
    exact (equal a a).mpr (.refl a.2.comparable)
  · intro a b same
    exact (equal b a).mpr ((equal a b).mp same).symm
  · intro a b c first second
    exact (equal a c).mpr (((equal a b).mp first).trans ((equal b c).mp second))

end Schema

namespace Sample

def homes : Schema where
  bean? type :=
    if type = "fx::Home" then some { homeType with layout := (compared homeDecl).layout } else none

def homeAt (zip : Int) : Obj := .bean "fx::Home" [("city", none), ("zip", some (.int .u32 zip))]

def twoHomes (kind : MapKind) (value : Ty) : Obj :=
  .map kind .str value [(.str "new", homeAt 20), (.str "old", homeAt 10)]

def homeSet (kind : SetKind) : Obj := .set kind (.bean "fx::Home") [homeAt 10, homeAt 20]

theorem comparable_homeAt {zip : Int} (contained : IntType.contains .u32 zip = true) :
    homes.Comparable (homeAt zip) where
  typed := by
    have declared : homes.layouts "fx::Home" = some (compared homeDecl).layout := rfl
    refine .of_slots declared rfl ?_ ?_
    · intro slot member
      simp only [compared, homeDecl, BeanDecl.layout, List.map_cons, List.map_nil, List.mem_cons,
        List.not_mem_nil, or_false] at member
      rcases member with rfl | rfl
      · rfl
      · exact Ty.accepts_iff.mp rfl
    · have number : homes.WellTyped (.int .u32 zip) := .scalar contained
      simpa using number
  keyed := by
    have number : (Obj.int .u32 zip).Keyed := .scalar _
    exact .bean (by simpa using number)
  comparable := by
    have declared : homes.layouts "fx::Home" = some (compared homeDecl).layout := rfl
    have number : (Obj.int .u32 zip).Comparable homes.layouts := .scalar trivial
    exact .bean declared rfl (by simpa using number)

theorem comparable_twoHomes {kind : MapKind} {value : Ty} (accepts : value.Conforms (homeAt 0)) :
    homes.Comparable (twoHomes kind value) := by
  have first : homes.Comparable (homeAt 20) := comparable_homeAt rfl
  have second : homes.Comparable (homeAt 10) := comparable_homeAt rfl
  have conforms (zip : Int) : value.Conforms (homeAt zip) := accepts.congr rfl
  refine ⟨?_, ?_, ?_⟩
  · refine .map ?_ ?_ ?_
    · simp [Key.hasType]
    · simp [conforms]
    · simp [first.typed, second.typed]
  · refine .map ?_ ?_ ?_
    · simp [Entries.keys, Key.hasType]
    · decide
    · simp [first.keyed, second.keyed]
  · refine .map ?_
    simp [first.comparable, second.comparable]

theorem comparable_homeSet (kind : SetKind) : homes.Comparable (homeSet kind) := by
  have first : homes.Comparable (homeAt 10) := comparable_homeAt rfl
  have second : homes.Comparable (homeAt 20) := comparable_homeAt rfl
  have conforms (zip : Int) : (Ty.bean "fx::Home").Conforms (homeAt zip) := .exact (homeAt zip)
  refine ⟨?_, ?_, .set⟩
  · refine .set ?_ ?_
    · simp [conforms]
    · simp [first.typed, second.typed]
  · refine .set ?_ ?_
    · simp [homeAt, Obj.ty]
    · simp [homeAt, Obj.int]

end Sample

open Sample in
/-- A hashed map of homes and a sorted one of anything, and the sets of the homes. -/
theorem Schema.sameContent_twoHomes :
    homes.Comparable (twoHomes .hash (.bean "fx::Home")) ∧ homes.Comparable (twoHomes .sorted .any) ∧
    (twoHomes .hash (.bean "fx::Home")).SameContent (twoHomes .sorted .any) ∧
    ¬ (twoHomes .sorted .any).SameContent (homeAt 10) ∧
    homes.Comparable (homeSet .hash) ∧ homes.Comparable (homeSet .sorted) ∧
    (homeSet .hash).SameContent (homeSet .sorted) := by
  have left : homes.Comparable (twoHomes .hash (.bean "fx::Home")) := comparable_twoHomes (.exact (homeAt 0))
  have right : homes.Comparable (twoHomes .sorted .any) := comparable_twoHomes (.any _)
  have home : homes.Comparable (homeAt 10) := comparable_homeAt rfl
  have hashed : homes.Comparable (homeSet .hash) := comparable_homeSet .hash
  have sorted : homes.Comparable (homeSet .sorted) := comparable_homeSet .sorted
  have decided := (compare?_decides_content homes).1
  exact ⟨left, right, (decided _ _ left right).1.mp rfl, (decided _ _ right home).2.mp rfl,
    hashed, sorted, (decided _ _ hashed sorted).1.mp rfl⟩

end ObjectGraph
