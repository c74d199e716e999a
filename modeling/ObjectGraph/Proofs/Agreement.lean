import ObjectGraph.Proofs.Place

/-! Objects that agree off a place.

Two objects agree off a place when they differ at most in what sits there: on the way to the place
they have the same types and lengths, and every slot that leads elsewhere holds the same in both.
Changing a slot gives an object that agrees with the former one off that slot.
-/

set_option autoImplicit false
namespace ObjectGraph

/-- The places part ways: after a common beginning they go on through different slots. -/
def Diverge (p q : Place) : Prop :=
  ∃ common u w, u ≠ w ∧ common ++ [u] <+: p ∧ common ++ [w] <+: q

theorem Diverge.symm {p q : Place} (diverge : Diverge p q) : Diverge q p := by
  obtain ⟨common, u, w, ne, left, right⟩ := diverge
  exact ⟨common, w, u, ne.symm, right, left⟩

theorem Diverge.not_prefix {p q place : Place} (diverge : Diverge p q) (below : p <+: place) :
    ¬ q <+: place := by
  intro below'
  obtain ⟨common, u, w, ne, left, right⟩ := diverge
  have same := List.prefix_of_prefix_length_le (left.trans below) (right.trans below') (by simp)
  rw [List.prefix_append_right_inj] at same
  simp at same
  exact ne same

theorem Diverge.irrefl {p : Place} (diverge : Diverge p p) : False :=
  diverge.not_prefix (List.prefix_refl p) (List.prefix_refl p)

theorem Diverge.not_nil {p : Place} (diverge : Diverge p []) : False := by
  obtain ⟨common, _, w, _, _, right⟩ := diverge
  simp at right

theorem Diverge.of_append {p q rest : Place} (diverge : Diverge p (q ++ rest)) :
    Diverge p q ∨ ∃ below, p = q ++ below ∧ Diverge below rest := by
  obtain ⟨common, u, w, ne, left, right⟩ := diverge
  -- The slot where the places part lies in `q`, or it is the last one of `q`, or it lies below.
  rcases List.prefix_or_prefix_of_prefix right (List.prefix_append q rest) with inside | within
  · exact .inl ⟨common, u, w, ne, left, inside⟩
  rcases List.prefix_concat_iff.mp within with same | within
  · exact .inl ⟨common, u, w, ne, left, same ▸ List.prefix_refl _⟩
  · obtain ⟨more, rfl⟩ := within
    obtain ⟨tail, rfl⟩ := left
    rw [List.append_assoc, List.prefix_append_right_inj] at right
    exact .inr ⟨more ++ [u] ++ tail, by simp only [List.append_assoc],
      more, u, w, ne, List.prefix_append _ _, right⟩

namespace Obj

structure AgreeBut (slot : Slot) (o o' : Obj) : Prop where
  ty : o'.ty = o.ty
  length? : o'.length? = o.length?
  part? : ∀ other, other ≠ slot → o'.part? other = o.part? other

/-- The objects are alike but for what sits at a place. -/
inductive AgreeOff : Place → Obj → Obj → Prop where
  | refl (place : Place) (o : Obj) : AgreeOff place o o
  | last {slot : Slot} {o o' : Obj} : AgreeBut slot o o' → AgreeOff [slot] o o'
  | inner {slot : Slot} {place : Place} {o o' part part' : Obj} : AgreeBut slot o o' →
    o.part? slot = some part → o'.part? slot = some part' → AgreeOff place part part' →
    AgreeOff (slot :: place) o o'

theorem agreeBut_put (o : Obj) (slot : Slot) (v : Option Obj) : AgreeBut slot o (o.put slot v) :=
  ⟨ty_put o slot v, length?_put o slot v, fun _ ne => part?_put_of_ne o v ne⟩

theorem agreeBut_withPart (o : Obj) (slot : Slot) (part : Obj) :
    AgreeBut slot o (o.withPart slot part) :=
  ⟨ty_withPart o slot part, length?_withPart o slot part, fun _ ne => part?_withPart_of_ne o part ne⟩

theorem agreeOff_replaceAt {o part part' : Obj} {base place : Place} (found : o.at? base = some part)
    (agree : AgreeOff place part part') : AgreeOff (base ++ place) o (o.replaceAt base part') := by
  fun_induction at? o base with
  | case1 => cases found; exact agree
  | case2 o slot base child held ih =>
    simp only [replaceAt, held, List.cons_append]
    exact .inner (agreeBut_withPart o slot _) held (part?_withPart_self _ held) (ih found)
  | case3 => cases found

theorem agreeOff_replaceAt_slot {o old : Obj} {place : Place} {slot : Slot}
    (found : o.at? (place ++ [slot]) = some old) (new : Obj) :
    AgreeOff (place ++ [slot]) o (o.replaceAt (place ++ [slot]) new) := by
  rw [at?_append] at found
  obtain ⟨owner, ownerFound, found⟩ := Option.bind_eq_some_iff.mp found
  rw [at?_singleton] at found
  rw [replaceAt_append ownerFound]
  simp only [replaceAt, found]
  exact agreeOff_replaceAt ownerFound (.last (agreeBut_withPart owner slot new))

theorem agreeOff_assign (o : Obj) (place : Place) (slot : Slot) (v : Option Obj) :
    AgreeOff (place ++ [slot]) o (o.assign place slot v) := by
  unfold assign
  split
  next owner found => exact agreeOff_replaceAt found (.last (agreeBut_put owner slot v))
  · exact .refl _ o

theorem AgreeOff.ty {place : Place} {o o' : Obj} (agree : AgreeOff place o o')
    (nonempty : place ≠ []) : o'.ty = o.ty := by
  cases agree with
  | refl => rfl
  | last same => exact same.ty
  | inner same => exact same.ty

/-- Objects that agree off a place have the same parts on the way to it, and these agree below. -/
theorem AgreeOff.descend {base more : Place} {o o' part : Obj} (agree : AgreeOff (base ++ more) o o')
    (found : o.at? base = some part) (nonempty : more ≠ []) :
    ∃ part', o'.at? base = some part' ∧ AgreeOff more part part' := by
  fun_induction at? o base generalizing o' with
  | case1 => cases found; exact ⟨o', rfl, agree⟩
  | case2 o slot base child held ih =>
    rw [List.cons_append] at agree
    -- The place goes on below `base`, so the objects do not part at the slot on the way.
    generalize continued : base ++ more = place at agree
    cases agree with
    | refl => exact ⟨part, by simp only [at?, held, found], .refl _ _⟩
    | last => exact absurd (List.append_eq_nil_iff.mp continued).2 nonempty
    | inner _ held₁ held₂ agree =>
      subst continued
      rw [held] at held₁
      cases held₁
      obtain ⟨part', found', agree⟩ := ih agree found
      exact ⟨part', by simp only [at?, held₂, found'], agree⟩
  | case3 => cases found

theorem AgreeOff.length? {place : Place} {o o' : Obj} (agree : AgreeOff place o o')
    (nonempty : place ≠ []) : o'.length? = o.length? := by
  cases agree with
  | refl => rfl
  | last same => exact same.length?
  | inner same => exact same.length?

theorem AgreeOff.at? {p q : Place} {o o' : Obj} (agree : AgreeOff p o o') (diverge : Diverge p q) :
    o'.at? q = o.at? q := by
  obtain ⟨common, u, w, ne, ⟨below, rfl⟩, ⟨rest, rfl⟩⟩ := diverge
  -- The objects agree along the common beginning; behind it only the slot `u` may differ.
  induction common generalizing o o' with
  | nil =>
    simp only [List.nil_append, List.singleton_append, Obj.at?] at agree ⊢
    cases agree with
    | refl => rfl
    | last same => rw [same.part? w ne.symm]
    | inner same => rw [same.part? w ne.symm]
  | cons slot common ih =>
    simp only [List.cons_append, Obj.at?] at agree ⊢
    generalize continued : common ++ [u] ++ below = place at agree
    cases agree with
    | refl => rfl
    | last => simp at continued
    | inner _ held held' agree =>
      subst continued
      simp only [held, held']
      exact ih agree

end Obj

end ObjectGraph
