import ObjectGraph.Proofs.Declared
import ObjectGraph.Proofs.ObjectOrder

/-! Type preservation: nothing is ever converted, and no slot holds what it was not declared for.

Every change keeps a well-typed graph well typed and its root of the same type: a write along a path
whether it succeeds or not, with all that it makes on the way, and the adding of elements.
-/

set_option autoImplicit false
namespace ObjectGraph

/-- The object is a well-typed one of the same type as the other. -/
def Schema.Keeps (s : Schema) (o o' : Obj) : Prop :=
  s.WellTyped o' ∧ o'.ty = o.ty

namespace Context

variable {ctx : Context} {o o' : Obj}

theorem Wrote.keeps {once : Prop} {v : Option Obj} {s : Segment} {rest : List Segment}
    {outcome : Except AccessError Unit} (wrote : ctx.Wrote once v s rest o outcome o')
    (usual : ctx.Usual) (sound : ctx.schema.Sound) (typed : ctx.schema.WellTyped o)
    (values : ∀ w, v = some w → ctx.schema.WellTyped w) : ctx.schema.Keeps o o' := by
  induction wrote with
  | refused => exact ⟨typed, rfl⟩
  | idle => exact ⟨typed, rfl⟩
  | stored _ admits => exact ⟨typed.assign admits values, Obj.ty_assign _ _ _ _⟩
  | entered _ held _ ih =>
    obtain ⟨partTyped, same⟩ := ih (typed.at? held)
    exact ⟨typed.replaceAt held partTyped same, Obj.ty_replaceAt held same⟩
  | made _ _ _ _ admits creates _ ih =>
    -- The slot admitted what was made, so it admits what the rest of the write left of it.
    obtain ⟨newTyped, same⟩ := ih (creates.wellTyped usual sound)
    refine ⟨typed.assign (admits.congr same) fun w eq => ?_, Obj.ty_assign _ _ _ _⟩
    exact Option.some.inj eq ▸ newTyped
  | lost _ _ _ _ _ _ admits creates =>
    refine ⟨typed.assign admits fun w eq => ?_, Obj.ty_assign _ _ _ _⟩
    exact Option.some.inj eq ▸ creates.wellTyped usual sound

end Context

/-! Adding elements -/

theorem ListView.push_ok {l l' : ListView} {o : Obj} (pushed : l.push o = .ok l') :
    l'.obj = .list l.kind l.item (l.items ++ [o]) ∧ l.item.Conforms o := by
  unfold ListView.push at pushed
  cases accepted : l.item.element o with
  | error e => simp [accepted, Except.map] at pushed
  | ok o' =>
    obtain ⟨rfl, conforms⟩ := Ty.element_ok accepted
    simp only [accepted, Except.map, Except.ok.injEq] at pushed
    exact ⟨pushed ▸ rfl, conforms⟩

theorem Members.mem_insert_iff {o p : Obj} {members : Members} :
    p ∈ Members.insert o members ↔ p = o ∨ p ∈ members := by
  fun_induction Members.insert o members with
  | case1 => simp
  | case2 => exact List.mem_cons
  | case3 m rest equal =>
    obtain rfl := Obj.eq_of_order equal
    simp +contextual
  | case4 m rest _ ih => rw [List.mem_cons, ih, List.mem_cons, or_left_comm]

theorem SetView.insert_ok {s s' : SetView} {o : Obj} {new : Bool} (inserted : s.insert o = .ok (s', new)) :
    s'.obj = .set s.kind s.item (Members.insert o s.members) ∧ s.item.Conforms o := by
  unfold SetView.insert at inserted
  cases accepted : s.item.element o with
  | error e => simp [accepted, Except.map] at inserted
  | ok o' =>
    obtain ⟨rfl, conforms⟩ := Ty.element_ok accepted
    simp only [accepted, Except.map, Except.ok.injEq, Prod.mk.injEq] at inserted
    exact ⟨inserted.1 ▸ rfl, conforms⟩

namespace CollectionAccess

variable {s : Schema} {o element : Obj}

theorem keeps_add (typed : s.WellTyped o) (elementTyped : s.WellTyped element) :
    s.Keeps o ((add element).after o) := by
  unfold Edit.after
  simp only [add, Edit.bind_apply, Edit.get_apply]
  -- Only lists and sets grow. Other objects refuse the element and stay as they are.
  cases o <;> simp only [Obj.view]
  case list kind item items =>
    cases pushed : (ListView.mk kind item items).push element with
    | error e => exact ⟨typed, rfl⟩
    | ok l =>
      obtain ⟨same, conforms⟩ := ListView.push_ok pushed
      simp only [Edit.bind_apply, mapError_ok, Edit.ofExcept_ok_apply, Edit.set_apply, same]
      cases typed with
      | list conform parts =>
        refine ⟨.list ?_ ?_, rfl⟩ <;> intro x member <;>
          rcases List.mem_append.mp member with old | added
        · exact conform x old
        · exact List.mem_singleton.mp added ▸ conforms
        · exact parts x old
        · exact List.mem_singleton.mp added ▸ elementTyped
  case set kind item members =>
    cases inserted : (SetView.mk kind item members).insert element with
    | error e => exact ⟨typed, rfl⟩
    | ok grown =>
      obtain ⟨same, conforms⟩ := SetView.insert_ok inserted
      simp only [Edit.bind_apply, mapError_ok, Edit.ofExcept_ok_apply, Edit.set_apply, same]
      cases typed with
      | set conform parts =>
        refine ⟨.set ?_ ?_, rfl⟩ <;> intro x member <;>
          rcases Members.mem_insert_iff.mp member with rfl | old
        · exact conforms
        · exact conform x old
        · exact elementTyped
        · exact parts x old
  all_goals exact ⟨typed, rfl⟩

theorem keeps_addAll {elements : List Obj} (typed : s.WellTyped o)
    (elementsTyped : ∀ e ∈ elements, s.WellTyped e) : s.Keeps o ((addAll elements).after o) := by
  induction elements generalizing o with
  | nil => exact ⟨typed, rfl⟩
  | cons e rest ih =>
    -- An element that is refused ends the run, with the elements before it added.
    have first := keeps_add typed (elementsTyped e List.mem_cons_self)
    simp only [addAll, Edit.after, Edit.bind_apply] at first ⊢
    cases ran : add e o with
    | error => rwa [ran] at first
    | ok _ o' =>
      rw [ran] at first
      obtain ⟨typed', same⟩ := first
      obtain ⟨typed'', same'⟩ := ih typed' fun x member =>
        elementsTyped x (List.mem_cons_of_mem _ member)
      exact ⟨typed'', same'.trans same⟩

end CollectionAccess

namespace Context

variable {ctx : Context} {o : Obj}

theorem keeps_adapted {action : Adapter → Edit AccessError Unit} (usual : ctx.Usual)
    (unadapted : ctx.schema.adapter? o = none) (typed : ctx.schema.WellTyped o)
    (refused : ∀ a, a = .bean ∨ a = .map → (action a).after o = o)
    (added : ctx.schema.Keeps o ((action .collection).after o)) : ctx.schema.Keeps o
      ((do action (← Edit.ofExcept (ctx.adapter (← get))) : Edit AccessError Unit).after o) := by
  obtain ⟨a, chosen, kinds⟩ := usual.adapter unadapted
  have ran : (do action (← Edit.ofExcept (ctx.adapter (← get))) : Edit AccessError Unit).after o =
      (action a).after o := by
    simp only [Edit.after, Edit.bind_apply, Edit.get_apply, chosen, Edit.ofExcept_ok_apply]
  rw [ran]
  rcases kinds with ⟨_, rfl⟩ | ⟨_, rfl | rfl⟩
  · rw [refused .map (.inr rfl)]
    exact ⟨typed, rfl⟩
  · rw [refused .bean (.inl rfl)]
    exact ⟨typed, rfl⟩
  · exact added

end Context

/-- Writes along paths and additions keep a graph well typed, and its root of the same type, be they
made on the graph itself or on a part lent from it. -/
theorem Navigator.keeps_types {s : Schema} {ctx : Context} {n : Navigator} {graph o : Obj}
    {place : Place} (chosen : ctx = .standard s ∨ ctx = .withCollections s) (sound : s.Sound)
    (typed : s.WellTyped graph) (lent : graph.at? place = some o) (found : n.obj? = some o) :
    (∀ p v, (∀ w, v = some w → s.WellTyped w) → ctx.PlainAlong False o p v →
      ∃ o', (n.write ctx p v).1.obj? = some o' ∧ s.Keeps graph (graph.replaceAt place o')) ∧
    (s.adapter? o = none →
      (∀ element, s.WellTyped element → ∃ o', (n.add ctx element).1.obj? = some o' ∧
        s.Keeps graph (graph.replaceAt place o')) ∧
      ∀ elements, (∀ e ∈ elements, s.WellTyped e) → ∃ o', (n.addAll ctx elements).1.obj? = some o' ∧
        s.Keeps graph (graph.replaceAt place o')) := by
  have same : ctx.schema = s := by rcases chosen with rfl | rfl <;> rfl
  have usual : ctx.Usual := by
    rcases chosen with rfl | rfl
    · exact Context.usual_standard s
    · exact Context.usual_withCollections s
  subst same
  have oTyped := typed.at? lent
  have unchanged : ctx.schema.Keeps graph (graph.replaceAt place o) := by
    rw [Obj.replaceAt_at? lent]
    exact ⟨typed, rfl⟩
  have putBack {o' : Obj} (kept : ctx.schema.Keeps o o') :
      ctx.schema.Keeps graph (graph.replaceAt place o') :=
    ⟨typed.replaceAt lent kept.1 kept.2, Obj.ty_replaceAt lent kept.2⟩
  refine ⟨fun p v values along => ?_, fun unadapted => ⟨fun element elementTyped => ?_,
    fun elements elementsTyped => ?_⟩⟩
  · refine obj?_edit found _ unchanged (putBack ?_)
    exact (Context.wrote_writeFrom usual sound oTyped along).keeps usual sound oTyped values
  · refine obj?_edit found _ unchanged (putBack (Context.keeps_adapted usual unadapted oTyped ?_ ?_))
    · rintro a (rfl | rfl) <;> rfl
    · exact CollectionAccess.keeps_add oTyped elementTyped
  · refine obj?_edit found _ unchanged (putBack (Context.keeps_adapted usual unadapted oTyped ?_ ?_))
    · rintro a (rfl | rfl) <;> rfl
    · exact CollectionAccess.keeps_addAll oTyped elementsTyped

open Sample in
/-- A write that makes a home and is then refused, and a room added to the rooms of a tenant. -/
theorem Navigator.keeps_types_tenant :
    (∃ o', ((writable (tenant "Ann" [])).write (.withCollections tenancy) (.ofString "home.city")
      (some (.int .u8 1))).1.obj? = some o' ∧ tenancy.Keeps (tenant "Ann" []) o') ∧
    ∃ o', ((writable (.list .vec (.int .u8) [])).add (.withCollections tenancy)
      (.int .u8 1)).1.obj? = some o' ∧
        tenancy.Keeps (tenant "Ann" []) ((tenant "Ann" []).replaceAt [.field "rooms"] o') := by
  have typed : tenancy.WellTyped (tenant "Ann" []) := wellTyped_tenant "Ann" (by simp) (by simp)
  have room : tenancy.WellTyped (.int .u8 1) := by
    have contained : IntType.contains .u8 1 = true := by decide
    exact .scalar contained
  have root : (tenant "Ann" []).at? [] = some (tenant "Ann" []) := rfl
  have rooms : (tenant "Ann" []).at? [.field "rooms"] = some (.list .vec (.int .u8) []) := rfl
  constructor
  · refine (keeps_types (.inr rfl) tenancy_sound typed root rfl).1 _ _ ?_ ?_
    · intro w same
      exact Option.some.inj same ▸ room
    · exact tenancy_fieldsOnly.plainAlong _ _ _ _
  · exact ((keeps_types (.inr rfl) tenancy_sound typed rooms rfl).2 rfl).1 _ room

end ObjectGraph
