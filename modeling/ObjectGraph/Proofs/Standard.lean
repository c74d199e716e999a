import ObjectGraph.Adapter
import ObjectGraph.Proofs.Lineage

/-! The usual contexts: what they make and which adapters they choose.

The usual factory makes well-typed objects where the schema is sound. An object without an adapter
of its own is accessed by key if it is a map and by the members of its class otherwise; adding
elements changes nothing about that.
-/

set_option autoImplicit false
namespace ObjectGraph

/-- The factory is the usual one, and a chosen adapter is one that adds elements, never for maps. -/
structure Context.Usual (ctx : Context) : Prop where
  objects : ctx.objects = .standard ctx.schema
  adapters : ∀ o, ctx.adapters.supports o = true →
    o.isMap = false ∧ ctx.adapters.adapterFor o = .ok .collection

theorem Context.usual_standard (s : Schema) : (standard s).Usual where
  objects := rfl
  adapters := fun _ supported => nomatch supported

/-- The usual context for a schema, in which elements can be added to lists and sets. -/
def Context.withCollections (s : Schema) : Context :=
  { standard s with adapters := AdapterRegistry.factory [AdapterRegistry.collections] }

theorem Context.usual_withCollections (s : Schema) : (withCollections s).Usual where
  objects := rfl
  adapters o supported := by
    have applies : o.kind = .list ∨ o.kind = .set := by
      simpa [withCollections, AdapterRegistry.factory, AdapterRegistry.find?,
        AdapterRegistry.collections] using supported
    constructor
    · rcases applies with same | same <;> simp [Obj.isMap, same]
    · simp [withCollections, AdapterRegistry.factory, AdapterRegistry.find?,
        AdapterRegistry.collections, applies]

theorem ScalarType.default_inRange (t : ScalarType) : t.default.InRange := by
  cases t with
  | int type =>
    have contained : type.contains 0 = true := by cases type <;> decide
    exact contained
  | _ => trivial

namespace Schema

variable {s : Schema} {t : Ty} {o : Obj}

theorem WellTyped.default (sound : s.Sound) (made : s.default? t = some o) : s.WellTyped o := by
  unfold default? at made
  split at made
  next t =>
    cases made
    exact .scalar t.default_inRange
  · cases made
    exact .list (by simp) (by simp)
  · cases made
    exact .array trivial (by simp) (by simp)
  · cases made
  · cases made
    exact .map (by simp) (by simp) (by simp)
  · cases made
    exact .set (by simp) (by simp)
  next name =>
    obtain ⟨bean, found, made⟩ := Option.bind_eq_some_iff.mp made
    exact sound.defaults name bean o found made
  · cases made
  · cases made

theorem WellTyped.instantiate (sound : s.Sound) (made : s.instantiate t = .ok o) :
    s.WellTyped o := by
  unfold Schema.instantiate at made
  split at made
  next c found =>
    obtain ⟨l, lineage, constructor⟩ := Option.bind_eq_some_iff.mp found
    unfold lineage? at lineage
    split at lineage
    next name =>
      obtain ⟨bean, beanFound, rfl⟩ := Option.map_eq_some_iff.mp lineage
      have member := List.mem_of_find?_eq_some constructor
      have noParams : c.params = [] := by simpa using List.find?_some constructor
      refine sound.constructs name bean c o beanFound member noParams ?_
      cases built : c.build [] <;>
        simp_all [Constructor.invoke, Constructor.checkArgs, bind, Except.bind]
    all_goals first | cases lineage; cases constructor | cases lineage
  · split at made
    next o' found =>
      cases made
      exact WellTyped.default sound found
    · cases made

end Schema

theorem ObjectFactory.make_standard {s : Schema} {t : Ty} {o : Obj} :
    (standard s).make t = .ok o ↔ s.instantiate t.concrete = .ok o := by
  simp only [make, standard, List.isEmpty_nil, Bool.and_self, if_true]
  cases s.instantiate t.concrete <;> simp

namespace Context

variable {ctx : Context} {t : Ty} {o : Obj}

theorem Usual.make_wellTyped (usual : ctx.Usual) (sound : ctx.schema.Sound)
    (made : ctx.objects.make t = .ok o) : ctx.schema.WellTyped o := by
  rw [usual.objects, ObjectFactory.make_standard] at made
  exact Schema.WellTyped.instantiate sound made

theorem Usual.make_missingType (usual : ctx.Usual)
    (made : ctx.objects.make (MapAccess.missingType t) = .ok o) : ctx.objects.make t = .ok o := by
  rw [usual.objects, ObjectFactory.make_standard] at made ⊢
  cases t <;> exact made

/-- An object without an adapter of its own is accessed by key if it is a map, else by class. -/
theorem Usual.adapter (usual : ctx.Usual) (unadapted : ctx.schema.adapter? o = none) :
    ∃ a, ctx.adapter o = .ok a ∧
      (o.isMap = true ∧ a = .map ∨ o.isMap = false ∧ (a = .bean ∨ a = .collection)) := by
  simp only [Context.adapter, resolve, unadapted]
  by_cases supported : ctx.adapters.supports o = true
  · obtain ⟨notMap, chosen⟩ := usual.adapters o supported
    exact ⟨.collection, by simp [supported, chosen, Except.map], .inr ⟨notMap, .inr rfl⟩⟩
  · refine ⟨adapterByKind o, by simp [supported, Except.map], ?_⟩
    cases kind : o.isMap with
    | true => exact .inl ⟨rfl, by simp [adapterByKind, kind]⟩
    | false => exact .inr ⟨rfl, .inl (by simp [adapterByKind, kind])⟩

theorem createMissing_ok {owner : Obj} {s : Segment} {property : String}
    (made : ctx.createMissing owner s property t = .ok o) : ctx.objects.make t = .ok o := by
  unfold createMissing at made
  cases found : ctx.objects.make t with
  | error e => simp [found] at made
  | ok o' => simpa [found] using made

end Context

end ObjectGraph
