import ObjectGraph.Context
import ObjectGraph.Proofs.Typing

/-! Lineages: how the classes of a bean type fit its layout, and which field serves a property.

A schema is sound when its classes read and write slots of the layouts and what it makes is well
typed. On a well-typed bean every route of the lineage then leads to the embedded parent it is for,
and a property that no accessor method claims is served by a field of the class the route leads to.
-/

set_option autoImplicit false
namespace ObjectGraph
namespace Schema

structure Fits (s : Schema) (type : String) (c : Class) : Prop where
  target : c.target = .bean type
  stored : ∀ f ∈ c.fields, ∃ layout slot, s.layouts type = some layout ∧
    layout.slot? f.slot = some slot ∧ slot.ty = f.ty ∧ slot.nullable = f.nullable
  named : ∀ f ∈ c.fields, ∀ g ∈ c.fields, f.name = g.name → f.slot = g.slot

/-- Each class fits its bean type, and its parent is a bean in a slot of its own, always there. -/
inductive Embeds (s : Schema) : String → Class → List Parent → Prop where
  | last {type : String} {c : Class} : s.Fits type c → Embeds s type c []
  | parent {type parent : String} {c : Class} {p : Parent} {parents : List Parent} {layout : Layout}
    {slot : SlotType} : s.Fits type c → s.layouts type = some layout →
    layout.slot? p.slot = some slot → slot.ty = .bean parent → slot.nullable = false →
    (∀ f ∈ c.fields, f.slot ≠ p.slot) → Embeds s parent p.cls parents →
    Embeds s type c (p :: parents)

/-- The lineages fit the layouts, and default instances and constructors without parameters give
well-typed objects. -/
structure Sound (s : Schema) : Prop where
  embeds : ∀ type bean, s.bean? type = some bean →
    s.Embeds type bean.lineage.own bean.lineage.parents
  defaults : ∀ type bean o, s.bean? type = some bean → bean.default? = some o → s.WellTyped o
  constructs : ∀ type bean c o, s.bean? type = some bean → c ∈ bean.lineage.own.constructors →
    c.params = [] → c.build [] = .ok o → s.WellTyped o

variable {s : Schema}

theorem Embeds.fits {type : String} {c : Class} {parents : List Parent}
    (embeds : s.Embeds type c parents) : s.Fits type c := by
  cases embeds with
  | last fits => exact fits
  | parent fits => exact fits

theorem bean_of_ty {o : Obj} {type : String} (same : o.ty = .bean type) :
    ∃ fields, o = .bean type fields := by
  cases o <;> simp only [Obj.ty, Ty.bean.injEq, reduceCtorEq] at same
  exact ⟨_, by rw [same]⟩

theorem WellTyped.part?_of_slot {type name : String} {fields : Fields} {layout : Layout}
    {slot : SlotType} (typed : s.WellTyped (.bean type fields))
    (layoutFound : s.layouts type = some layout) (slotFound : layout.slot? name = some slot)
    (always : slot.nullable = false) :
    ∃ part, Fields.get? name fields = some part ∧ slot.ty.Conforms part := by
  cases typed with
  | bean sameLayout _ takes _ =>
    rw [layoutFound] at sameLayout
    cases sameLayout
    have takes := takes name slot slotFound
    cases found : Fields.get? name fields with
    | none => rw [found, SlotType.Takes, always] at takes; cases takes
    | some part => rw [found] at takes; exact ⟨part, rfl, takes⟩

theorem Embeds.follow {type : String} {c : Class} {parents : List Parent}
    (embeds : s.Embeds type c parents) {o : Obj} (typed : s.WellTyped o) (same : o.ty = .bean type)
    {reached : List Upcast} {entry : List Upcast × Class}
    (member : entry ∈ Lineage.routes reached c parents) :
    ∃ steps owner type', entry.1 = reached ++ steps ∧ Upcast.follow steps o = .ok owner ∧
      o.at? (Upcast.place steps) = some owner ∧ owner.ty = .bean type' ∧ s.Fits type' entry.2 := by
  have root (fits : s.Fits type c) : ∃ steps owner type', reached = reached ++ steps ∧
      Upcast.follow steps o = .ok owner ∧ o.at? (Upcast.place steps) = some owner ∧
      owner.ty = .bean type' ∧ s.Fits type' c :=
    ⟨[], o, type, (List.append_nil _).symm, rfl, rfl, same, fits⟩
  -- Down the lineage: the rest of the route is followed from the parent that sits in the object.
  induction embeds generalizing o reached with
  | last fits =>
    cases List.mem_singleton.mp member
    exact root fits
  | @parent type parent c p parents layout slot fits layoutFound slotFound isBean always _ rest ih =>
    rcases List.mem_cons.mp member with rfl | member
    · exact root fits
    obtain ⟨fields, rfl⟩ := bean_of_ty same
    obtain ⟨part, found, conforms⟩ := typed.part?_of_slot layoutFound slotFound always
    have inSlot : (Obj.bean type fields).part? (.field p.slot) = some part := found
    have partTyped := typed.part inSlot
    have partSame : part.ty = .bean parent := (isBean ▸ conforms).ty_eq rfl
    obtain ⟨steps, owner, type', route, followed, placed, ownerSame, ownerFits⟩ :=
      ih partTyped partSame member fun fits =>
        ⟨[], part, parent, (List.append_nil _).symm, rfl, rfl, partSame, fits⟩
    refine ⟨⟨c.target, p.slot, p.cls.name⟩ :: steps, owner, type', ?_, ?_, ?_, ownerSame, ownerFits⟩
    · rw [route, List.append_assoc, List.singleton_append]
    · simp [Upcast.follow, fits.target, Target.accepts, Obj.part?, found, followed]
    · simpa [Upcast.place, Obj.at?, Obj.part?, found] using placed

end Schema

/-! Which member serves a property -/

theorem find?_firstOfEach (invokers : List Invoker) (property : String) :
    (firstOfEach invokers).find? (·.property == property) =
      invokers.find? (·.property == property) := by
  induction invokers with
  | nil => rfl
  | cons i rest ih =>
    simp only [firstOfEach, List.find?_cons]
    split
    · rfl
    next other =>
      rw [List.find?_filter, ← ih]
      congr 1
      funext j
      by_cases same : j.property = property
      · subst same
        have ne : i.property ≠ j.property := by simpa using other
        simp [ne.symm]
      · simp [same]

namespace Lineage

/-- No method of the lineage reads or writes the property. -/
def ServedByFields (l : Lineage) (namer : PropertyNamer) (property : String) : Prop :=
  ∀ entry ∈ l.classes, ∀ m ∈ entry.2.methods,
    m.readProperty? namer ≠ some property ∧ m.writtenProperty? namer ≠ some property

/-- Fields of one name belong to one class: none redeclares a field of an embedded parent. -/
def DeclaresOnce (l : Lineage) : Prop :=
  ∀ a ∈ l.classes, ∀ b ∈ l.classes, ∀ f ∈ a.2.fields, ∀ g ∈ b.2.fields, f.name = g.name → a = b

end Lineage

structure Invoker.OfField (i : Invoker) (l : Lineage) (c : Class) (f : Field) : Prop where
  mem_classes : (i.route, c) ∈ l.classes
  target : i.target = c.target
  member : i.member = .field f
  mem_fields : f ∈ c.fields
  name : f.name = i.property

namespace Lineage

variable {l : Lineage} {namer : PropertyNamer} {property : String} {i : Invoker}

theorem find?_unclaimed {claim : Method → Option String} (path : Class → Method → String → MutablePath)
    (unclaimed : ∀ entry ∈ l.classes, ∀ m ∈ entry.2.methods, claim m ≠ some property)
    (fields : List Invoker) :
    ((l.classes.flatMap fun ((route, c) : List Upcast × Class) => c.methods.filterMap fun m =>
      (claim m).map fun claimed =>
        Invoker.mk claimed route c.target (.method m (path c m claimed))) ++ fields).find?
          (·.property == property) = fields.find? (·.property == property) := by
  -- No invoker of a method is for the property, so the first one is an invoker of a field.
  rw [List.find?_append, List.find?_eq_none.mpr, Option.none_or]
  intro i member same
  obtain ⟨entry, entryMember, member⟩ := List.mem_flatMap.mp member
  obtain ⟨m, mMember, made⟩ := List.mem_filterMap.mp member
  obtain ⟨claimed, claims, rfl⟩ := Option.map_eq_some_iff.mp made
  exact unclaimed entry entryMember m mMember (claims.trans (congrArg some (beq_iff_eq.mp same)))

theorem find?_readers (served : l.ServedByFields namer property) :
    (l.readers namer).find? (·.property == property) =
      (l.classes.flatMap fun (route, c) => c.fieldReaders namer route).find?
        (·.property == property) :=
  find?_unclaimed (fun c m => c.mutablePath m.name)
    (fun entry entryMember m mMember => (served entry entryMember m mMember).1) _

theorem find?_writers (served : l.ServedByFields namer property) :
    (l.writers namer).find? (·.property == property) =
      (l.classes.flatMap fun (route, c) => c.fieldWriters namer route).find?
        (·.property == property) :=
  find?_unclaimed (fun _ _ _ => .none)
    (fun entry entryMember m mMember => (served entry entryMember m mMember).2) _

theorem ofField_of_reader (member : i ∈ l.classes.flatMap fun (route, c) => c.fieldReaders namer route) :
    ∃ c f, i.OfField l c f ∧ namer.isValid f.name := by
  obtain ⟨⟨route, c⟩, entryMember, member⟩ := List.mem_flatMap.mp member
  obtain ⟨f, fMember, rfl⟩ := List.mem_map.mp member
  rw [List.mem_filter] at fMember
  exact ⟨c, f, ⟨entryMember, rfl, rfl, fMember.1, rfl⟩, fMember.2⟩

theorem ofField_of_member {f : Field} (reader : i ∈ l.readers namer) (member : i.member = .field f) :
    ∃ c, i.OfField l c f := by
  rcases List.mem_append.mp reader with reader | reader
  · obtain ⟨entry, _, reader⟩ := List.mem_flatMap.mp reader
    obtain ⟨m, _, made⟩ := List.mem_filterMap.mp reader
    obtain ⟨_, _, rfl⟩ := Option.map_eq_some_iff.mp made
    cases member
  · obtain ⟨c, g, ofField, _⟩ := ofField_of_reader reader
    have same := ofField.member
    rw [member] at same
    cases same
    exact ⟨c, ofField⟩

theorem ofField_of_writer (member : i ∈ l.classes.flatMap fun (route, c) => c.fieldWriters namer route) :
    ∃ c f, i.OfField l c f ∧ f.readonly = false ∧ i ∈ c.fieldReaders namer i.route := by
  obtain ⟨⟨route, c⟩, entryMember, member⟩ := List.mem_flatMap.mp member
  obtain ⟨f, fMember, rfl⟩ := List.mem_map.mp member
  simp only [List.mem_filter, Bool.and_eq_true, Bool.not_eq_true'] at fMember
  exact ⟨c, f, ⟨entryMember, rfl, rfl, fMember.1, rfl⟩, fMember.2.2,
    List.mem_map.mpr ⟨f, List.mem_filter.mpr ⟨fMember.1, fMember.2.1⟩, rfl⟩⟩

end Lineage

namespace Descriptor

variable {l : Lineage} {namer : PropertyNamer} {ty : Ty} {property : String} {i : Invoker}

theorem getter?_build : (build namer ty (some l)).getter? property =
    (l.readers namer).find? (·.property == property) :=
  find?_firstOfEach _ _

theorem setter?_build : (build namer ty (some l)).setter? property =
    (l.writers namer).find? (·.property == property) :=
  find?_firstOfEach _ _

theorem property_of_getter? {d : Descriptor} (found : d.getter? property = some i) :
    i.property = property := by
  simpa using List.find?_some found

theorem property_of_setter? {d : Descriptor} (found : d.setter? property = some i) :
    i.property = property := by
  simpa using List.find?_some found

theorem getter?_ofField (served : l.ServedByFields namer property)
    (found : (build namer ty (some l)).getter? property = some i) : ∃ c f, i.OfField l c f := by
  rw [getter?_build, Lineage.find?_readers served] at found
  obtain ⟨c, f, ofField, _⟩ := Lineage.ofField_of_reader (List.mem_of_find?_eq_some found)
  exact ⟨c, f, ofField⟩

theorem setter?_ofField (served : l.ServedByFields namer property)
    (found : (build namer ty (some l)).setter? property = some i) :
    ∃ c f, i.OfField l c f ∧ f.readonly = false := by
  rw [setter?_build, Lineage.find?_writers served] at found
  obtain ⟨c, f, ofField, writable, _⟩ :=
    Lineage.ofField_of_writer (List.mem_of_find?_eq_some found)
  exact ⟨c, f, ofField, writable⟩

/-- Where no field is redeclared, a property is read and written in one slot. -/
theorem getter?_of_setter? (served : l.ServedByFields namer property) (once : l.DeclaresOnce)
    {j : Invoker} (found : (build namer ty (some l)).setter? property = some j) :
    ∃ i c f g, (build namer ty (some l)).getter? property = some i ∧ i.route = j.route ∧
      i.OfField l c f ∧ j.OfField l c g ∧ f.name = g.name := by
  have writerFound := found
  rw [setter?_build, Lineage.find?_writers served] at found
  obtain ⟨c, g, writes, _, reads⟩ := Lineage.ofField_of_writer (List.mem_of_find?_eq_some found)
  have some : ((build namer ty (some l)).getter? property).isSome := by
    rw [getter?_build, Lineage.find?_readers served, List.find?_isSome]
    exact ⟨j, List.mem_flatMap.mpr ⟨(j.route, c), writes.mem_classes, reads⟩,
      beq_iff_eq.mpr (property_of_setter? writerFound)⟩
  obtain ⟨i, readerFound⟩ := Option.isSome_iff_exists.mp some
  obtain ⟨d, f, ofField⟩ := getter?_ofField served readerFound
  have names : f.name = g.name := by
    rw [ofField.name, writes.name, property_of_getter? readerFound, property_of_setter? writerFound]
  -- Both fields have the property's name, so they belong to one class on one route.
  have same := once _ ofField.mem_classes _ writes.mem_classes f ofField.mem_fields g
    writes.mem_fields names
  simp only [Prod.mk.injEq] at same
  obtain ⟨route, rfl⟩ := same
  exact ⟨i, d, f, g, readerFound, route, ofField, writes, names⟩

end Descriptor

end ObjectGraph
