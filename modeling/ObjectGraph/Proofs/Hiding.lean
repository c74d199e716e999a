import ObjectGraph.Proofs.Declared

/-! Fields that hide fields of an embedded parent.

Of the fields of one name along a lineage, the nearest one is read. The nearest one that may be written
is written, and that is another one where the nearest is read-only. There, and nowhere else, a write
lands in a field that reads do not show.
-/

set_option autoImplicit false
namespace ObjectGraph

/-- A field, the class of a lineage that declares it, and the steps that lead to the class. -/
structure DeclaredField where
  route : List Upcast
  cls : Class
  field : Field

def DeclaredField.invoker (d : DeclaredField) : Invoker :=
  ⟨d.field.name, d.route, d.cls.target, .field d.field⟩

namespace Lineage

def declarations (l : Lineage) : List DeclaredField :=
  l.classes.flatMap fun (route, c) => c.fields.map fun f => ⟨route, c, f⟩

def nearest? (l : Lineage) (name : String) : Option DeclaredField :=
  l.declarations.find? fun d => d.field.name == name

def nearestWritable? (l : Lineage) (name : String) : Option DeclaredField :=
  l.declarations.find? fun d => d.field.name == name && !d.field.readonly

/-- The nearest field of the name is read-only and hides one that may be written. -/
def HidesWritable (l : Lineage) (name : String) : Prop :=
  (∃ d, l.nearest? name = some d ∧ d.field.readonly = true) ∧ (l.nearestWritable? name).isSome

variable {l : Lineage} {namer : PropertyNamer} {property : String} {d : DeclaredField} {i : Invoker}

/-- The nearest class that declares a field of the name is the first one that knows such a field. -/
theorem nearest?_eq_findSome? (l : Lineage) (name : String) : l.nearest? name =
    l.classes.findSome? fun (route, c) => (c.field? name).map fun f => ⟨route, c, f⟩ := by
  unfold nearest? declarations
  rw [List.find?_flatMap]
  congr 1
  funext entry
  rw [List.find?_map]
  rfl

theorem writable_of_nearestWritable? (found : l.nearestWritable? property = some d) :
    d.field.readonly = false := by
  have accepted := List.find?_some found
  rw [Bool.and_eq_true, Bool.not_eq_true'] at accepted
  exact accepted.2

theorem nearestWritable?_of_writable (found : l.nearest? property = some d)
    (writable : d.field.readonly = false) : l.nearestWritable? property = some d := by
  unfold nearest? at found
  obtain ⟨named, before, after, split, others⟩ := List.find?_eq_some_iff_append.mp found
  refine List.find?_eq_some_iff_append.mpr ⟨?_, before, after, split, ?_⟩
  · rw [named, writable]
    rfl
  · intro other member
    have unnamed := others other member
    rw [Bool.not_eq_true'] at unnamed
    rw [unnamed]
    rfl

theorem nearest?_of_nearestWritable? (found : l.nearestWritable? property = some d) :
    ∃ near, l.nearest? property = some near := by
  have accepted := List.find?_some found
  rw [Bool.and_eq_true] at accepted
  have some : (l.nearest? property).isSome := by
    apply List.find?_isSome.mpr
    exact ⟨d, List.mem_of_find?_eq_some found, accepted.1⟩
  exact Option.isSome_iff_exists.mp some

/-- The first invoker of the selected fields that is for a valid property is that of the first selected
field of its name. -/
theorem find?_selected (select : Field → Bool) (valid : namer.isValid property = true) :
    (l.classes.flatMap fun ((route, c) : List Upcast × Class) =>
      (c.fields.filter fun f => namer.isValid f.name && select f).map fun f =>
        Invoker.mk f.name route c.target (.field f)).find? (·.property == property) =
      (l.declarations.find? fun d => d.field.name == property && select d.field).map
        DeclaredField.invoker := by
  -- The invokers are those of the selected declarations, in the same order.
  have listed : (l.classes.flatMap fun ((route, c) : List Upcast × Class) =>
      (c.fields.filter fun f => namer.isValid f.name && select f).map fun f =>
        Invoker.mk f.name route c.target (.field f)) =
      (l.declarations.filter fun d => namer.isValid d.field.name && select d.field).map
        DeclaredField.invoker := by
    unfold declarations
    rw [List.filter_flatMap, List.map_flatMap]
    congr 1
    funext entry
    rw [List.filter_map, List.map_map]
    rfl
  rw [listed, List.find?_map, List.find?_filter]
  congr 2
  funext d
  by_cases same : d.field.name = property
  · simp [DeclaredField.invoker, same, valid]
  · simp [DeclaredField.invoker, same]

theorem find?_fieldReaders (valid : namer.isValid property = true) :
    (l.classes.flatMap fun (route, c) => c.fieldReaders namer route).find? (·.property == property) =
      (l.nearest? property).map DeclaredField.invoker := by
  have found := find?_selected (l := l) (fun _ => true) valid
  simp only [Bool.and_true] at found
  exact found

theorem find?_fieldWriters (valid : namer.isValid property = true) :
    (l.classes.flatMap fun (route, c) => c.fieldWriters namer route).find? (·.property == property) =
      (l.nearestWritable? property).map DeclaredField.invoker :=
  find?_selected (fun f => !f.readonly) valid

end Lineage

namespace Descriptor

variable {l : Lineage} {namer : PropertyNamer} {ty : Ty} {property : String} {i : Invoker} {f : Field}

theorem getter?_of_field (valid : namer.isValid property = true)
    (found : (build namer ty (some l)).getter? property = some i) (member : i.member = .field f) :
    (l.nearest? property).map DeclaredField.invoker = some i := by
  rw [getter?_build, Lineage.readers, List.find?_append, Option.or_eq_some_iff] at found
  rcases found with method | ⟨_, field⟩
  · -- The invokers before those of the fields are bound to methods.
    obtain ⟨entry, _, method⟩ := List.mem_flatMap.mp (List.mem_of_find?_eq_some method)
    obtain ⟨m, _, made⟩ := List.mem_filterMap.mp method
    obtain ⟨_, _, rfl⟩ := Option.map_eq_some_iff.mp made
    cases member
  · rw [← Lineage.find?_fieldReaders valid]
    exact field

theorem setter?_of_unset (valid : namer.isValid property = true)
    (unset : ∀ entry ∈ l.classes, ∀ m ∈ entry.2.methods, m.writtenProperty? namer ≠ some property) :
    (build namer ty (some l)).setter? property =
      (l.nearestWritable? property).map DeclaredField.invoker := by
  rw [setter?_build, Lineage.writers]
  exact (Lineage.find?_unclaimed (fun _ _ _ => .none) unset _).trans (Lineage.find?_fieldWriters valid)

/-- Where no method sets a valid property, it can be written exactly if the nearest field of its name
may be, and is read from and written to that field; but where that field hides one that may be written,
the other one is written. -/
theorem written_field (valid : namer.isValid property = true)
    (unset : ∀ entry ∈ l.classes, ∀ m ∈ entry.2.methods, m.writtenProperty? namer ≠ some property) :
    (¬ l.HidesWritable property →
      ((build namer ty (some l)).hasSetter property = true ↔
        ∃ near, l.nearest? property = some near ∧ near.field.readonly = false) ∧
      ∀ i j f g, (build namer ty (some l)).getter? property = some i →
        (build namer ty (some l)).setter? property = some j →
        i.member = .field f → j.member = .field g →
        ∃ near, l.nearest? property = some near ∧ i = near.invoker ∧ j = near.invoker) ∧
    (l.HidesWritable property → ∃ near far, l.nearest? property = some near ∧
      near.field.readonly = true ∧ l.nearestWritable? property = some far ∧
      far.field.readonly = false ∧ (build namer ty (some l)).setter? property = some far.invoker ∧
      ∀ i f, (build namer ty (some l)).getter? property = some i → i.member = .field f →
        i = near.invoker) := by
  have setter : (build namer ty (some l)).setter? property =
      (l.nearestWritable? property).map DeclaredField.invoker := setter?_of_unset valid unset
  -- The nearest field is the one that is written, unless it is read-only and hides that one.
  have written (unhidden : ¬ l.HidesWritable property) {far : DeclaredField}
      (found : l.nearestWritable? property = some far) : l.nearest? property = some far := by
    obtain ⟨near, first⟩ := Lineage.nearest?_of_nearestWritable? found
    by_cases readonly : near.field.readonly = true
    · exact absurd ⟨⟨near, first, readonly⟩, by rw [found]; rfl⟩ unhidden
    · rw [Bool.not_eq_true] at readonly
      rw [Lineage.nearestWritable?_of_writable first readonly] at found
      rw [first, found]
  constructor
  · intro unhidden
    constructor
    · rw [hasSetter, setter, Option.isSome_map]
      constructor
      · intro some
        obtain ⟨far, found⟩ := Option.isSome_iff_exists.mp some
        exact ⟨far, written unhidden found, Lineage.writable_of_nearestWritable? found⟩
      · rintro ⟨near, first, writable⟩
        rw [Lineage.nearestWritable?_of_writable first writable]
        rfl
    · intro i j f g read write readMember _
      rw [setter] at write
      obtain ⟨far, found, rfl⟩ := Option.map_eq_some_iff.mp write
      have first := written unhidden found
      have served := getter?_of_field valid read readMember
      rw [first] at served
      exact ⟨far, first, (Option.some.inj served).symm, rfl⟩
  · rintro ⟨⟨near, first, readonly⟩, some⟩
    obtain ⟨far, found⟩ := Option.isSome_iff_exists.mp some
    refine ⟨near, far, first, readonly, found, Lineage.writable_of_nearestWritable? found, ?_, ?_⟩
    · rw [setter, found]
      rfl
    · intro i f read member
      have served := getter?_of_field valid read member
      rw [first] at served
      exact (Option.some.inj served).symm

end Descriptor

namespace Sample

open SlotDecl (always)

def guestDecl : BeanDecl :=
  ⟨"fx::Guest", "Guest", [(always "resident" (.bean "fx::Resident")).asParent,
    (always "name" .str).asReadonly], true, false, false⟩

def guest (name known : String) : Obj :=
  .bean "fx::Guest" [("resident", some (resident known)), ("name", some (.str name))]

def guestLineage : Lineage :=
  ⟨guestDecl.toClass [] [], [⟨"resident", residentDecl.toClass [] []⟩]⟩

def lodging : Schema where
  bean? type :=
    if type = "fx::Guest" then some ⟨guestDecl.layout, guestLineage, none, none⟩
    else tenancy.bean? type

end Sample

open Sample in
/-- The name of a guest is read from the guest and written to the resident. -/
theorem Descriptor.written_field_guest : PropertyNamer.bean.isValid "name" = true ∧
    guestLineage.HidesWritable "name" ∧ ∃ near far, guestLineage.nearest? "name" = some near ∧
      near.field.readonly = true ∧ guestLineage.nearestWritable? "name" = some far ∧
      far.field.readonly = false ∧
      (build .bean (.bean "fx::Guest") (some guestLineage)).setter? "name" = some far.invoker ∧
      ∀ i f, (build .bean (.bean "fx::Guest") (some guestLineage)).getter? "name" = some i →
        i.member = .field f → i = near.invoker := by
  have valid : PropertyNamer.bean.isValid "name" = true := by decide
  have unset : ∀ entry ∈ guestLineage.classes, ∀ m ∈ entry.2.methods,
      m.writtenProperty? .bean ≠ some "name" := by
    intro entry member m method
    rcases List.mem_cons.mp member with rfl | member
    · cases method
    · cases List.mem_singleton.mp member
      cases method
  have hides : guestLineage.HidesWritable "name" := ⟨⟨_, rfl, rfl⟩, rfl⟩
  exact ⟨valid, hides, (Descriptor.written_field valid unset).2 hides⟩

open Sample in
/-- The name of a guest is read-only and has a setter. A write changes the name of the resident, which
reads do not show. -/
theorem Descriptor.guest_name_written : PropertyNamer.bean.isValid "name" = true ∧
    (∀ entry ∈ guestLineage.classes, entry.2.methods = []) ∧
    (guestLineage.nearest? "name").map (fun d => (d.cls.name, d.field.readonly)) =
      some ("Guest", true) ∧
    (build .bean (.bean "fx::Guest") (some guestLineage)).hasSetter "name" = true ∧
    (Navigator.writable (guest "Ann" "Bob")).write (.standard lodging) (.ofString "name")
      (some (.str "Eve")) = (.writable (guest "Ann" "Eve"), .ok ()) ∧
    (Navigator.writable (guest "Ann" "Eve")).read (.standard lodging) (.ofString "name") =
      .ok (some (.shared (.str "Ann"))) := by
  have methods : ∀ entry ∈ guestLineage.classes, entry.2.methods = [] := by
    intro entry member
    rcases List.mem_cons.mp member with rfl | member
    · rfl
    · cases List.mem_singleton.mp member
      rfl
  exact ⟨by decide, methods, by decide, by decide, rfl, rfl⟩

end ObjectGraph
