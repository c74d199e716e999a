import ObjectGraph.Proofs.Agreement
import ObjectGraph.Proofs.Edit
import ObjectGraph.Proofs.Lineage

/-! Properties that fields serve.

An invoker bound to a field leads to one slot of a bean: the object itself or an embedded parent. It
reads and lends what the slot holds, and a write that it does not refuse gives the slot its value.
-/

set_option autoImplicit false
namespace ObjectGraph

theorem Ty.argument_ok {t : Ty} {nullable : Bool} {v w : Option Obj}
    (accepted : t.argument nullable v = .ok w) (name : String) :
    w = v ∧ (SlotType.mk name t nullable).Takes v := by
  have required {o w : Obj} (accepted : t.required (some o) = .ok w) : w = o ∧ t.Conforms o := by
    unfold Ty.required Ty.convert at accepted
    by_cases accepts : t.accepts o
    · simp only [accepts, if_true, Except.ok.injEq] at accepted
      exact ⟨accepted.symm, Ty.accepts_iff.mp accepts⟩
    · simp [accepts] at accepted
  cases nullable <;> cases v with
  | none => simp_all [Ty.argument, Ty.required, Ty.optional, SlotType.Takes, Except.map]
  | some o =>
    cases made : t.required (some o) with
    | error e => simp [Ty.argument, Ty.optional, made, Except.map] at accepted
    | ok o' =>
      obtain ⟨rfl, conforms⟩ := required made
      simp only [Ty.argument, Ty.optional, made, Except.map, if_true, Bool.false_eq_true, if_false,
        Except.ok.injEq] at accepted
      exact ⟨accepted.symm, conforms⟩

namespace Invoker

def slot? (i : Invoker) : Option (Place × Slot) :=
  match i.member with
  | .field f => some (Upcast.place i.route, .field f.slot)
  | .method _ _ => none

structure LeadsTo (i : Invoker) (o : Obj) (f : Field) (owner : Obj) : Prop where
  member : i.member = .field f
  followed : Upcast.follow i.route o = .ok owner
  found : o.at? (Upcast.place i.route) = some owner
  accepted : i.target.accepts owner = true

variable {i : Invoker} {o owner : Obj} {f : Field}

theorem LeadsTo.slot? (leads : i.LeadsTo o f owner) :
    i.slot? = some (Upcast.place i.route, .field f.slot) := by
  simp only [Invoker.slot?, leads.member]

theorem LeadsTo.check (leads : i.LeadsTo o f owner) : i.target.check owner = .ok () := by
  simp only [Target.check, leads.accepted, if_true]

theorem read_of_leadsTo (leads : i.LeadsTo o f owner) :
    i.read o = .ok ((owner.part? (.field f.slot)).map Value.shared) := by
  simp only [read, leads.followed, readMember, leads.member, Field.read, bind, Except.bind,
    leads.check, pure, Except.pure, mapError_ok]

theorem borrow_of_leadsTo (leads : i.LeadsTo o f owner) : i.borrow o =
    .ok ((owner.part? (.field f.slot)).map fun _ => Upcast.place i.route ++ [.field f.slot]) o := by
  -- The field lends in the bean that the route leads to, and nothing is put back changed.
  have member : i.borrowMember owner =
      .ok ((owner.part? (.field f.slot)).map fun _ => [.field f.slot]) owner := by
    simp only [borrowMember, leads.member, Field.borrow, Edit.bind_apply, Edit.get_apply, leads.check,
      Edit.ofExcept_ok_apply, Edit.pure_apply]
  simp only [borrow, onOwner, Edit.bind_apply, Edit.get_apply, Edit.mapError_apply, leads.followed,
    Edit.ofExcept_ok_apply, Edit.inside_apply, member, Obj.replaceAt_at? leads.found,
    Edit.pure_apply, Option.map_map]
  rfl

theorem borrow_of_method {m : Method} (root : i.route = []) (member : i.member = .method m .none) :
    i.borrow o = .error (i.failed .borrow o.typeName (.noMutableAccess m.name)) o := by
  have refused : i.borrowMember o = .error (.noMutableAccess m.name) o := by
    simp only [borrowMember, member, Edit.throw_apply]
  simp only [borrow, onOwner, root, Upcast.follow, Upcast.place, List.map_nil, Edit.bind_apply,
    Edit.get_apply, Edit.mapError_apply, Edit.ofExcept_ok_apply, Edit.inside_apply, refused,
    Obj.replaceAt]

theorem write_of_leadsTo (leads : i.LeadsTo o f owner) (writable : f.readonly = false)
    (v : Option Obj) : i.write v o =
      match f.ty.argument f.nullable v with
      | .ok w => .ok () (o.assign (Upcast.place i.route) (.field f.slot) w)
      | .error e => .error (i.failed .set o.typeName e) o := by
  have member : i.writeMember v owner =
      match f.ty.argument f.nullable v with
      | .ok w => .ok () (owner.put (.field f.slot) w)
      | .error e => .error e owner := by
    simp only [writeMember, leads.member, Field.write, writable, Bool.false_eq_true, if_false,
      Edit.bind_apply]
    cases f.ty.argument f.nullable v with
    | error e => simp
    | ok w =>
      simp only [Edit.ofExcept_ok_apply, Edit.get_apply, leads.check]
      cases owner <;> simp [Obj.put]
  simp only [write, onOwner, Edit.bind_apply, Edit.get_apply, Edit.mapError_apply, leads.followed,
    Edit.ofExcept_ok_apply, Edit.inside_apply, member, Obj.assign_eq leads.found]
  cases f.ty.argument f.nullable v <;> simp [Obj.replaceAt_at? leads.found]

end Invoker

namespace Schema

variable {s : Schema} {o : Obj} {type : String} {bean : BeanType} {i : Invoker} {c : Class} {f : Field}

theorem Fits.slot (fits : s.Fits type c) (member : f ∈ c.fields) (typed : s.WellTyped o)
    (same : o.ty = .bean type) : o.hasSlot (.field f.slot) = true ∧
      ∀ v w, f.ty.argument f.nullable v = .ok w → s.Admits o (.field f.slot) w := by
  obtain ⟨layout, slot, layoutFound, slotFound, tySame, nullableSame⟩ := fits.stored f member
  obtain ⟨fields, rfl⟩ := bean_of_ty same
  constructor
  · cases typed with
    | bean sameLayout names _ _ =>
      rw [layoutFound] at sameLayout
      cases sameLayout
      simp only [Obj.hasSlot, names, List.contains_iff_mem]
      exact List.mem_map.mpr ⟨slot, List.mem_of_find?_eq_some slotFound,
        by simpa using List.find?_some slotFound⟩
  · intro v w accepted
    obtain ⟨rfl, takes⟩ := Ty.argument_ok accepted slot.name
    rw [← tySame, ← nullableSame] at takes
    exact ⟨layout, slot, layoutFound, slotFound, takes⟩

theorem Sound.leadsTo (sound : s.Sound) (beanFound : s.bean? type = some bean)
    (typed : s.WellTyped o) (same : o.ty = .bean type) (ofField : i.OfField bean.lineage c f) :
    ∃ owner type', i.LeadsTo o f owner ∧ owner.ty = .bean type' ∧ s.Fits type' c := by
  obtain ⟨steps, owner, type', route, followed, placed, ownerSame, fits⟩ :=
    (sound.embeds type bean beanFound).follow typed same ofField.mem_classes
  rw [List.nil_append] at route
  dsimp only at route fits
  subst steps
  refine ⟨owner, type', ⟨ofField.member, followed, placed, ?_⟩, ownerSame, fits⟩
  obtain ⟨fields, rfl⟩ := bean_of_ty ownerSame
  rw [ofField.target, fits.target]
  exact beq_self_eq_true type'

theorem routes_reached {reached : List Upcast} {parents : List Parent} {entry : List Upcast × Class}
    (member : entry ∈ Lineage.routes reached c parents) : reached <+: entry.1 := by
  induction parents generalizing reached c with
  | nil =>
    cases List.mem_singleton.mp member
    exact List.prefix_refl reached
  | cons p parents ih =>
    rcases List.mem_cons.mp member with rfl | member
    · exact List.prefix_refl reached
    · exact (List.prefix_append _ _).trans (ih member)

theorem diverge_of_reached {reached : List Upcast} {step : Upcast} {entry : List Upcast × Class}
    {name : String} (below : reached ++ [step] <+: entry.1) (ne : name ≠ step.slot) (rest : Place) :
    Diverge (Upcast.place reached ++ [.field name]) (Upcast.place entry.1 ++ rest) := by
  obtain ⟨more, same⟩ := below
  refine ⟨Upcast.place reached, .field name, .field step.slot, ?_, List.prefix_refl _, ?_⟩
  · intro slots
    exact ne (Slot.field.inj slots)
  · rw [← same]
    simp [Upcast.place]

/-- Two fields of a lineage sit in one slot or in places that part ways. -/
theorem Embeds.apart {parents : List Parent} (embeds : s.Embeds type c parents) {reached : List Upcast}
    {a b : List Upcast × Class} (aMember : a ∈ Lineage.routes reached c parents)
    (bMember : b ∈ Lineage.routes reached c parents) {g : Field} (fMember : f ∈ a.2.fields)
    (gMember : g ∈ b.2.fields) :
    Upcast.place a.1 = Upcast.place b.1 ∧ f.slot = g.slot ∨
      Diverge (Upcast.place a.1 ++ [.field f.slot]) (Upcast.place b.1 ++ [.field g.slot]) := by
  have root (reached : List Upcast) : Upcast.place reached = Upcast.place reached ∧ f.slot = g.slot ∨
      Diverge (Upcast.place reached ++ [.field f.slot]) (Upcast.place reached ++ [.field g.slot]) := by
    by_cases same : f.slot = g.slot
    · exact .inl ⟨rfl, same⟩
    · exact .inr ⟨_, .field f.slot, .field g.slot, fun slots => same (Slot.field.inj slots),
        List.prefix_refl _, List.prefix_refl _⟩
  -- Fields of one class differ by their slots. Of two classes, the first in the lineage has its fields
  -- beside the slot that leads to the other one.
  induction embeds generalizing reached with
  | last =>
    cases List.mem_singleton.mp aMember
    cases List.mem_singleton.mp bMember
    exact root reached
  | @parent type parent c p parents layout slot _ _ _ _ _ apart _ ih =>
    rcases List.mem_cons.mp aMember with rfl | aMember <;>
      rcases List.mem_cons.mp bMember with rfl | bMember
    · exact root reached
    · exact .inr (diverge_of_reached (routes_reached bMember) (apart f fMember) _)
    · exact .inr (diverge_of_reached (routes_reached aMember) (apart g gMember) _).symm
    · exact ih aMember bMember

end Schema

end ObjectGraph
