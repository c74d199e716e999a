import Mathlib.Data.Finset.Card
import Mathlib.Data.Finset.SDiff
import Mathlib.Data.List.TakeWhile
import ObjectGraph.Proofs.Fitness
import ObjectGraph.Proofs.KeyOrder
import ObjectGraph.Proofs.Preservation

/-! Adding elements, one and many.

A list gets the elements at its end, as they come; a set gets those that are not among its members,
each once. Of a sequence of elements, those before the first that does not conform to the type of
the items are added, and that one is answered with the error that it meets on its own.
-/

set_option autoImplicit false
namespace ObjectGraph

instance (t : Ty) : DecidablePred t.Conforms := fun _ => decidable_of_iff _ Ty.accepts_iff

/-- The members of a set as sets keep them: in their natural order, none twice. -/
def Members.Ordered (members : Members) : Prop :=
  members.Pairwise fun o p => o.order p = .lt

/-- The members that a set has after others were added to it. -/
structure Members.IsUnion (members : Members) (added : List Obj) (union : Members) : Prop where
  mem : ∀ o, o ∈ union ↔ o ∈ members ∨ o ∈ added
  nodup : union.Nodup
  ordered : union.Ordered
  length : union.length = members.length + (added.toFinset \ members.toFinset).card

namespace Members

variable {members : Members} {o : Obj}

theorem Ordered.nodup (ordered : members.Ordered) : members.Nodup := by
  apply ordered.imp
  rintro o _ before rfl
  rw [Obj.order_eq_iff.2 rfl] at before
  cases before

theorem Ordered.insert (ordered : members.Ordered) (o : Obj) : (insert o members).Ordered := by
  fun_induction Members.insert o members with
  | case1 => exact List.pairwise_singleton _ _
  | case2 m rest before =>
    refine List.pairwise_cons.2 ⟨fun p member => ?_, ordered⟩
    rcases List.mem_cons.1 member with rfl | member
    · exact before
    · exact Obj.order_trans before ((List.pairwise_cons.1 ordered).1 p member)
  | case3 => exact ordered
  | case4 m rest after ih =>
    obtain ⟨first, ordered⟩ := List.pairwise_cons.1 ordered
    refine List.pairwise_cons.2 ⟨fun p member => ?_, ih ordered⟩
    rcases mem_insert_iff.1 member with rfl | member
    · exact Obj.order_gt_iff.1 after
    · exact first p member

theorem isUnion_of_mem {added : List Obj} {union : Members} (nodup : members.Nodup)
    (ordered : union.Ordered) (mem : ∀ o, o ∈ union ↔ o ∈ members ∨ o ∈ added) :
    members.IsUnion added union where
  mem := mem
  nodup := ordered.nodup
  ordered := ordered
  length := by
    have same : union.toFinset = members.toFinset ∪ added.toFinset := by
      ext o
      simp [mem]
    calc union.length
        = (members.toFinset ∪ added.toFinset).card := by
          rw [← List.toFinset_card_of_nodup ordered.nodup, same]
      _ = members.toFinset.card + (added.toFinset \ members.toFinset).card := by
          rw [← Finset.union_sdiff_self_eq_union, Finset.card_union_of_disjoint Finset.disjoint_sdiff]
      _ = members.length + (added.toFinset \ members.toFinset).card := by
          rw [List.toFinset_card_of_nodup nodup]

end Members

namespace Obj

/-- The type of what can be added to an object: the items of a list, the members of a set. -/
def addedType? : Obj → Option Ty
  | list _ item _ => some item
  | set _ item _ => some item
  | _ => none

def MembersOrdered : Obj → Prop
  | set _ _ members => Members.Ordered members
  | _ => True

/-- Elements added to an object: to a list after all its items, to a set as a union. -/
inductive WithAdded : Obj → List Obj → Obj → Prop where
  | list {kind : ListKind} {item : Ty} {items added : List Obj} :
    WithAdded (.list kind item items) added (.list kind item (items ++ added))
  | set {kind : SetKind} {item : Ty} {members union : Members} {added : List Obj} :
    members.IsUnion added union → WithAdded (.set kind item members) added (.set kind item union)

namespace WithAdded

variable {o o' o'' : Obj} {xs ys : List Obj}

theorem nil {t : Ty} (addable : o.addedType? = some t) (ordered : o.MembersOrdered) :
    o.WithAdded [] o := by
  cases o with
  | list kind item items =>
    have grown : (Obj.list kind item items).WithAdded [] (.list kind item (items ++ [])) := .list
    rwa [List.append_nil] at grown
  | set kind item members =>
    have union : Members.IsUnion members [] members :=
      Members.isUnion_of_mem (Members.Ordered.nodup ordered) ordered fun o => by simp
    exact .set union
  | _ => cases addable

theorem ty (added : o.WithAdded xs o') : o'.ty = o.ty := by
  cases added <;> rfl

theorem addedType? (added : o.WithAdded xs o') : o'.addedType? = o.addedType? := by
  cases added <;> rfl

theorem membersOrdered (added : o.WithAdded xs o') : o'.MembersOrdered := by
  cases added with
  | list => trivial
  | set union => exact union.ordered

theorem trans (ordered : o.MembersOrdered) (first : o.WithAdded xs o') (second : o'.WithAdded ys o'') :
    o.WithAdded (xs ++ ys) o'' := by
  cases first with
  | list =>
    cases second with
    | list => exact List.append_assoc .. ▸ .list
  | set union =>
    cases second with
    | set union' =>
      refine .set (Members.isUnion_of_mem (Members.Ordered.nodup ordered) union'.ordered fun o => ?_)
      rw [union'.mem, union.mem, List.mem_append, or_assoc]

end WithAdded

end Obj

namespace CollectionAccess

variable {o o' x : Obj} {t : Ty} {xs : List Obj}

def refusal (o : Obj) (t : Ty) (x : Obj) : AccessError :=
  .incompatibleValue "add" o.typeName (.incompatible t.slotName x.typeName)

theorem element_of_refused (refused : ¬ t.Conforms x) :
    t.element x = .error (.incompatible t.slotName x.typeName) := by
  rw [← Ty.accepts_iff] at refused
  simp [Ty.element, Ty.convert, refused]

theorem add_of_conforms (addable : o.addedType? = some t) (ordered : o.MembersOrdered)
    (conforms : t.Conforms x) : ∃ o', add x o = .ok () o' ∧ o.WithAdded [x] o' := by
  have accepts := Ty.accepts_iff.2 conforms
  cases o with
  | list kind item items =>
    cases addable
    refine ⟨_, ?_, .list⟩
    simp only [add, Edit.bind_apply, Edit.get_apply, Obj.view, ListView.push, Ty.element_of_accepts accepts]
    rfl
  | set kind item members =>
    cases addable
    have ordered : Members.Ordered members := ordered
    have union : Members.IsUnion members [x] (Members.insert x members) :=
      Members.isUnion_of_mem ordered.nodup (ordered.insert x) fun o => by
        rw [Members.mem_insert_iff, List.mem_singleton, or_comm]
    refine ⟨_, ?_, .set union⟩
    simp only [add, Edit.bind_apply, Edit.get_apply, Obj.view, SetView.insert, Ty.element_of_accepts accepts]
    rfl
  | _ => cases addable

theorem add_of_refused (addable : o.addedType? = some t) (refused : ¬ t.Conforms x) :
    add x o = .error (refusal o t x) o := by
  cases o with
  | list kind item items =>
    cases addable
    simp only [add, Edit.bind_apply, Edit.get_apply, Obj.view, ListView.push, element_of_refused refused]
    rfl
  | set kind item members =>
    cases addable
    simp only [add, Edit.bind_apply, Edit.get_apply, Obj.view, SetView.insert, element_of_refused refused]
    rfl
  | _ => cases addable

theorem addAll_append (xs ys : List Obj) :
    addAll (xs ++ ys) = (do addAll xs; addAll ys) := by
  induction xs with
  | nil => rfl
  | cons x xs ih => simp only [List.cons_append, addAll, ih, bind_assoc]

theorem add_cases (addable : o.addedType? = some t) (ordered : o.MembersOrdered) (x : Obj) :
    t.Conforms x ∧ (add x).outcome o = .ok () ∨
      ¬ t.Conforms x ∧ (add x).after o = o ∧ (add x).outcome o = .error (refusal o t x) := by
  by_cases conforms : t.Conforms x
  · obtain ⟨o', ran, _⟩ := add_of_conforms addable ordered conforms
    exact .inl ⟨conforms, by simp only [Edit.outcome, ran]⟩
  · have ran := add_of_refused addable conforms
    exact .inr ⟨conforms, by simp only [Edit.after, ran], by simp only [Edit.outcome, ran]⟩

/-- The elements before the first one that is refused are added, and that one decides the answer. -/
theorem addAll_run (addable : o.addedType? = some t) (ordered : o.MembersOrdered) (xs : List Obj) :
    ∃ o', o.WithAdded (xs.takeWhile fun x => t.Conforms x) o' ∧ addAll xs o =
      match xs.find? fun x => ¬ t.Conforms x with
      | none => .ok () o'
      | some x => .error (refusal o t x) o' := by
  induction xs generalizing o with
  | nil => exact ⟨o, .nil addable ordered, rfl⟩
  | cons x xs ih =>
    by_cases conforms : t.Conforms x
    -- What is left after the first element takes the same elements and is named alike in errors.
    · obtain ⟨o₁, ran, added⟩ := add_of_conforms addable ordered conforms
      obtain ⟨o₂, added', ran'⟩ := ih (added.addedType?.trans addable) added.membersOrdered
      have named (y : Obj) : refusal o₁ t y = refusal o t y := by
        simp only [refusal, Obj.typeName, added.ty]
      refine ⟨o₂, ?_, ?_⟩
      · rw [List.takeWhile_cons_of_pos (by simpa using conforms)]
        exact added.trans ordered added'
      · rw [List.find?_cons_of_neg (by simpa using conforms)]
        simp only [addAll, Edit.bind_apply, ran, ran', named]
    · refine ⟨o, ?_, ?_⟩
      · rw [List.takeWhile_cons_of_neg (by simpa using conforms)]
        exact .nil addable ordered
      · rw [List.find?_cons_of_pos (by simpa using conforms)]
        simp only [addAll, Edit.bind_apply, add_of_refused addable conforms]

end CollectionAccess

theorem Navigator.addAll_of_adapter {n : Navigator} {ctx : Context} {o : Obj}
    (changeable : n.changeable? = some o) (chosen : ctx.adapter o = .ok .collection) (xs : List Obj) :
    n.addAll ctx xs = (n.withObj ((CollectionAccess.addAll xs).after o),
      (CollectionAccess.addAll xs).outcome o) := by
  rw [Navigator.addAll, Navigator.edit_of_changeable changeable]
  simp only [Edit.after, Edit.outcome, Edit.bind_apply, Edit.get_apply, chosen, Edit.ofExcept_ok_apply,
    Adapter.addAll]

/-- What the adding of elements does to a list or a set, in all cases. It succeeds exactly if all conform
to the type of the items. The ones before the first that does not are added, and that one is answered
as it is when it is added alone, which changes nothing. To go on adding is to add more at once. -/
theorem Adapter.adds_longest_prefix {o : Obj} {t : Ty} (addable : o.addedType? = some t)
    (ordered : o.MembersOrdered) (xs : List Obj) :
    ((collection.addAll xs).outcome o = .ok () ↔ ∀ x ∈ xs, t.Conforms x) ∧
    o.WithAdded (xs.takeWhile fun x => t.Conforms x) ((collection.addAll xs).after o) ∧
    (∀ x, xs.find? (fun x => ¬ t.Conforms x) = some x →
      (collection.addAll xs).outcome o = (collection.add x).outcome o) ∧
    (∀ x, t.Conforms x ∧ (collection.add x).outcome o = .ok () ∨
      ¬ t.Conforms x ∧ (collection.add x).after o = o ∧ (collection.add x).outcome o =
        .error (.incompatibleValue "add" o.typeName (.incompatible t.slotName x.typeName))) ∧
    (∀ ys, collection.addAll (xs ++ ys) = (do collection.addAll xs; collection.addAll ys)) ∧
    ∀ (ctx : Context) (n : Navigator), n.changeable? = some o → ctx.adapter o = .ok .collection →
      n.addAll ctx xs =
        (n.withObj ((collection.addAll xs).after o), (collection.addAll xs).outcome o) := by
  -- The run tells what is left and what is answered; the rest says what each answer means.
  have alone := CollectionAccess.add_cases addable ordered
  obtain ⟨o', added, ran⟩ := CollectionAccess.addAll_run addable ordered xs
  refine ⟨?_, ?_, fun x found => ?_, alone, CollectionAccess.addAll_append xs,
    fun ctx n changeable chosen => Navigator.addAll_of_adapter changeable chosen xs⟩
  · simp only [addAll, Edit.outcome, ran]
    cases found : xs.find? fun x => ¬ t.Conforms x with
    | none => simpa using found
    | some x =>
      have refused : ¬ t.Conforms x := by simpa using List.find?_some found
      simpa using ⟨x, List.mem_of_find?_eq_some found, refused⟩
  · have after : (CollectionAccess.addAll xs).after o = o' := by
      simp only [Edit.after, ran]
      cases xs.find? fun x => ¬ t.Conforms x <;> rfl
    exact after.symm ▸ added
  · have refused : ¬ t.Conforms x := by simpa using List.find?_some found
    rcases alone x with ⟨conforms, _⟩ | ⟨_, _, error⟩
    · exact absurd conforms refused
    · simp only [addAll, add, Edit.outcome, ran, found] at error ⊢
      exact error.symm

/-- To a set of rows, the rows before a number are added, each once, and nothing from the number on. -/
theorem Adapter.adds_longest_prefix_rows :
    let row (n : Int) : Obj := .list .vec (.int .u8) [.int .u8 n]
    let rows : Obj := .set .sorted (.list .vec (.int .u8)) [row 2]
    rows.WithAdded [row 1, row 2]
      ((collection.addAll [row 1, row 2, .int .u8 3, row 4]).after rows) ∧
    (collection.addAll [row 1, row 2, .int .u8 3, row 4]).outcome rows =
      (collection.add (.int .u8 3)).outcome rows := by
  intro row rows
  have spec := adds_longest_prefix (o := rows) rfl (List.pairwise_singleton _ _)
    [row 1, row 2, .int .u8 3, row 4]
  exact ⟨spec.2.1, spec.2.2.1 _ rfl⟩

example :
    (Adapter.collection.addAll
      [.list .vec (.int .u8) [.int .u8 1, .int .u8 1], .list .vec (.int .u8) []]).after
      (.set .sorted (.list .vec (.int .u8)) [.list .vec (.int .u8) [.int .u8 1]]) =
    .set .sorted (.list .vec (.int .u8))
      [.list .vec (.int .u8) [], .list .vec (.int .u8) [.int .u8 1],
        .list .vec (.int .u8) [.int .u8 1, .int .u8 1]] := rfl

end ObjectGraph
