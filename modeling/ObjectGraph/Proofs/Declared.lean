import ObjectGraph.Bean
import ObjectGraph.Proofs.Writing

/-! Declared beans: the class of a declaration fits the layout of the same declaration.

A schema of declared beans without accessor methods and constructors is sound when the parent slots
hold beans of the schema, and no object of it answers otherwise than by its fields.
-/

set_option autoImplicit false
namespace ObjectGraph

theorem SlotDecl.field?_some {d : SlotDecl} {f : Field} (found : d.field? = some f) :
    f.name = d.name ∧ f.slot = d.name ∧ f.ty = d.ty ∧ f.nullable = d.nullable := by
  unfold field? at found
  split at found <;> cases found <;> exact ⟨rfl, rfl, rfl, rfl⟩

namespace BeanDecl

variable {d : BeanDecl} {s : Schema}

theorem slot?_layout (distinct : (d.slots.map SlotDecl.name).Nodup) {slot : SlotDecl}
    (member : slot ∈ d.slots) : d.layout.slot? slot.name = some slot.slotType := by
  unfold Layout.slot? layout
  -- The layout is looked through from the front, and no earlier slot has the name.
  generalize d.slots = slots at distinct member ⊢
  induction slots with
  | nil => cases member
  | cons first rest ih =>
    rw [List.map_cons, List.nodup_cons] at distinct
    rcases List.mem_cons.mp member with rfl | member
    · simp [SlotDecl.slotType]
    · have ne : first.name ≠ slot.name := by
        intro same
        exact distinct.1 (same ▸ List.mem_map_of_mem member)
      rw [List.map_cons, List.find?_cons_of_neg (by simpa [SlotDecl.slotType] using ne)]
      exact ih distinct.2 member

theorem fits (d : BeanDecl) (declared : s.layouts d.type = some d.layout)
    (distinct : (d.slots.map SlotDecl.name).Nodup) (methods : List Method)
    (constructors : List Constructor) : s.Fits d.type (d.toClass methods constructors) where
  target := rfl
  stored f member := by
    obtain ⟨slot, slotMember, made⟩ := List.mem_filterMap.mp member
    obtain ⟨_, slotSame, tySame, nullableSame⟩ := SlotDecl.field?_some made
    exact ⟨d.layout, slot.slotType, declared, slotSame ▸ slot?_layout distinct slotMember,
      tySame.symm, nullableSame.symm⟩
  named f fMember g gMember names := by
    obtain ⟨slot, _, made⟩ := List.mem_filterMap.mp fMember
    obtain ⟨slot', _, made'⟩ := List.mem_filterMap.mp gMember
    have first := SlotDecl.field?_some made
    have second := SlotDecl.field?_some made'
    rw [first.2.1, second.2.1, ← first.1, ← second.1, names]

end BeanDecl

/-- No object of the schema has an adapter of its own or accessor methods, and no class redeclares a
field of an embedded parent. -/
def Schema.FieldsOnly (s : Schema) : Prop :=
  ∀ type bean, s.bean? type = some bean → bean.adapter? = none ∧
    (∀ entry ∈ bean.lineage.classes, entry.2.methods = []) ∧ bean.lineage.DeclaresOnce

namespace Schema.FieldsOnly

variable {s : Schema} {ctx : Context}

theorem unadapted (fieldsOnly : s.FieldsOnly) (o : Obj) : s.adapter? o = none := by
  cases o with
  | bean type fields =>
    cases found : s.bean? type with
    | none => simp only [adapter?, found, Option.bind_none]
    | some bean =>
      simp only [adapter?, found, Option.bind_some]
      exact (fieldsOnly type bean found).1
  | _ => rfl

theorem plain (fieldsOnly : ctx.schema.FieldsOnly) (o : Obj) (name : String) : ctx.Plain o name := by
  refine ⟨fieldsOnly.unadapted o, ?_⟩
  intro type bean _ found entry member m mMember
  rw [(fieldsOnly type bean found).2.1 entry member] at mMember
  cases mMember

theorem plainAlong (fieldsOnly : ctx.schema.FieldsOnly) (once : Prop) (o : Obj) (p : Path)
    (v : Option Obj) : ctx.PlainAlong once o p v := by
  refine Context.Along.of_all (fun o s => ⟨fieldsOnly.plain o s.name, fun _ => ?_⟩) _ _ _
  intro type bean _ found
  exact (fieldsOnly type bean found).2.2

end Schema.FieldsOnly

/-- A bean is well typed when each slot of its layout takes what the bean has there. -/
theorem Schema.WellTyped.of_slots {s : Schema} {type : String} {layout : Layout} {fields : Fields}
    (declared : s.layouts type = some layout)
    (names : Fields.names fields = layout.slots.map SlotType.name)
    (takes : ∀ slot ∈ layout.slots, slot.Takes (Fields.get? slot.name fields))
    (parts : ∀ f ∈ fields, ∀ o, f.2 = some o → s.WellTyped o) : s.WellTyped (.bean type fields) := by
  refine .bean declared names ?_ parts
  intro name slot found
  have same : slot.name = name := by simpa using List.find?_some found
  exact same ▸ takes slot (List.mem_of_find?_eq_some found)

namespace Sample

open SlotDecl (always maybe)

def homeDecl : BeanDecl :=
  ⟨"fx::Home", "Home", [maybe "city" .str, always "zip" (.int .u32)], true, false, false⟩

def residentDecl : BeanDecl :=
  ⟨"fx::Resident", "Resident", [always "name" .str, maybe "home" (.bean "fx::Home")], true, false, false⟩

def tenantDecl : BeanDecl :=
  ⟨"fx::Tenant", "Tenant", [(always "resident" (.bean "fx::Resident")).asParent,
    always "rooms" (.list .vec (.int .u8)), always "notes" (.map .hash .str .any)], true, false, false⟩

def blankHome : Obj := .bean "fx::Home" [("city", none), ("zip", some (.int .u32 0))]

def resident (name : String) : Obj :=
  .bean "fx::Resident" [("name", some (.str name)), ("home", none)]

def tenant (name : String) (rooms : List Obj) : Obj :=
  .bean "fx::Tenant" [("resident", some (resident name)), ("rooms", some (.list .vec (.int .u8) rooms)),
    ("notes", some (.map .hash .str .any []))]

def homeType : BeanType :=
  ⟨homeDecl.layout, .single (homeDecl.toClass [] []), some blankHome, none⟩

def residentType : BeanType :=
  ⟨residentDecl.layout, .single (residentDecl.toClass [] []), some (resident ""), none⟩

def tenantType : BeanType :=
  ⟨tenantDecl.layout, ⟨tenantDecl.toClass [] [], [⟨"resident", residentDecl.toClass [] []⟩]⟩,
    some (tenant "" []), none⟩

def tenancy : Schema where
  bean? type :=
    if type = "fx::Home" then some homeType
    else if type = "fx::Resident" then some residentType
    else if type = "fx::Tenant" then some tenantType
    else none

theorem tenancy_cases {type : String} {bean : BeanType} (found : tenancy.bean? type = some bean) :
    type = "fx::Home" ∧ bean = homeType ∨ type = "fx::Resident" ∧ bean = residentType ∨
      type = "fx::Tenant" ∧ bean = tenantType := by
  simp only [tenancy] at found
  split at found
  next same => cases found; exact .inl ⟨same, rfl⟩
  · split at found
    next same => cases found; exact .inr (.inl ⟨same, rfl⟩)
    · split at found
      next same => cases found; exact .inr (.inr ⟨same, rfl⟩)
      · cases found

theorem single_declaresOnce (c : Class) : (Lineage.single c).DeclaresOnce := by
  intro a aMember b bMember _ _ _ _ _
  rw [List.mem_singleton.mp aMember, List.mem_singleton.mp bMember]

theorem tenant_field {f : Field} (member : f ∈ (tenantDecl.toClass [] []).fields) :
    f.slot = f.name ∧ (f.name = "rooms" ∨ f.name = "notes") := by
  simp only [BeanDecl.toClass, tenantDecl, SlotDecl.field?, always, SlotDecl.asParent,
    List.filterMap_cons, List.filterMap_nil, List.mem_cons, List.not_mem_nil, or_false] at member
  rcases member with rfl | rfl
  · exact ⟨rfl, .inl rfl⟩
  · exact ⟨rfl, .inr rfl⟩

theorem tenant_declaresOnce : tenantType.lineage.DeclaresOnce := by
  have apart : ∀ f ∈ (tenantDecl.toClass [] []).fields, ∀ g ∈ (residentDecl.toClass [] []).fields,
      f.name ≠ g.name := by
    intro f member
    rcases (tenant_field member).2 with same | same <;>
      simp [same, BeanDecl.toClass, residentDecl, SlotDecl.field?, always, maybe]
  intro a aMember b bMember f fMember g gMember names
  simp only [tenantType, Lineage.classes, Lineage.routes, List.mem_cons, List.not_mem_nil,
    or_false] at aMember bMember
  rcases aMember with rfl | rfl <;> rcases bMember with rfl | rfl
  · rfl
  · exact absurd names (apart f fMember g gMember)
  · exact absurd names.symm (apart g gMember f fMember)
  · rfl

theorem tenancy_fieldsOnly : tenancy.FieldsOnly := by
  intro type bean found
  rcases tenancy_cases found with ⟨_, rfl⟩ | ⟨_, rfl⟩ | ⟨_, rfl⟩
  · exact ⟨rfl, by simp [homeType, Lineage.classes, Lineage.routes, Lineage.single, BeanDecl.toClass],
      single_declaresOnce _⟩
  · exact ⟨rfl, by simp [residentType, Lineage.classes, Lineage.routes, Lineage.single,
      BeanDecl.toClass], single_declaresOnce _⟩
  · exact ⟨rfl, by simp [tenantType, Lineage.classes, Lineage.routes, BeanDecl.toClass],
      tenant_declaresOnce⟩

theorem wellTyped_blankHome : tenancy.WellTyped blankHome := by
  have zip : tenancy.WellTyped (.int .u32 0) := by
    have contained : IntType.contains .u32 0 = true := by decide
    exact .scalar contained
  have declared : tenancy.layouts "fx::Home" = some homeDecl.layout := rfl
  refine .of_slots declared rfl ?_ ?_
  · intro slot member
    simp only [homeDecl, BeanDecl.layout, List.map_cons, List.map_nil, List.mem_cons,
      List.not_mem_nil, or_false] at member
    rcases member with rfl | rfl
    · rfl
    · exact Ty.accepts_iff.mp rfl
  · simpa using zip

theorem wellTyped_resident (name : String) : tenancy.WellTyped (resident name) := by
  have declared : tenancy.layouts "fx::Resident" = some residentDecl.layout := rfl
  refine .of_slots declared rfl ?_ ?_
  · intro slot member
    simp only [residentDecl, BeanDecl.layout, List.map_cons, List.map_nil, List.mem_cons,
      List.not_mem_nil, or_false] at member
    rcases member with rfl | rfl
    · exact Ty.accepts_iff.mp rfl
    · rfl
  · have text : tenancy.WellTyped (.str name) := .scalar trivial
    simpa using text

theorem wellTyped_tenant (name : String) {rooms : List Obj}
    (conform : ∀ o ∈ rooms, (Ty.int .u8).Conforms o) (typed : ∀ o ∈ rooms, tenancy.WellTyped o) :
    tenancy.WellTyped (tenant name rooms) := by
  have declared : tenancy.layouts "fx::Tenant" = some tenantDecl.layout := rfl
  refine .of_slots declared rfl ?_ ?_
  · intro slot member
    simp only [tenantDecl, BeanDecl.layout, List.map_cons, List.map_nil, List.mem_cons,
      List.not_mem_nil, or_false] at member
    rcases member with rfl | rfl | rfl
    · exact Ty.accepts_iff.mp rfl
    · exact Ty.accepts_iff.mp rfl
    · exact Ty.accepts_iff.mp rfl
  · have notes : tenancy.WellTyped (.map .hash .str .any []) := .map (by simp) (by simp) (by simp)
    have list : tenancy.WellTyped (.list .vec (.int .u8) rooms) := .list conform typed
    simpa using ⟨wellTyped_resident name, list, notes⟩

theorem tenancy_sound : tenancy.Sound where
  embeds type bean found := by
    have home : tenancy.Fits "fx::Home" (homeDecl.toClass [] []) :=
      homeDecl.fits rfl (by decide) [] []
    have single : tenancy.Fits "fx::Resident" (residentDecl.toClass [] []) :=
      residentDecl.fits rfl (by decide) [] []
    have both : tenancy.Fits "fx::Tenant" (tenantDecl.toClass [] []) :=
      tenantDecl.fits rfl (by decide) [] []
    rcases tenancy_cases found with ⟨rfl, rfl⟩ | ⟨rfl, rfl⟩ | ⟨rfl, rfl⟩
    · exact .last home
    · exact .last single
    · have declared : tenancy.layouts "fx::Tenant" = some tenantDecl.layout := rfl
      have apart : ∀ f ∈ (tenantDecl.toClass [] []).fields, f.slot ≠ "resident" := by
        intro f member
        rcases tenant_field member with ⟨slot, same | same⟩ <;> simp [slot, same]
      exact .parent both declared rfl rfl rfl apart (.last single)
  defaults type bean o found made := by
    rcases tenancy_cases found with ⟨rfl, rfl⟩ | ⟨rfl, rfl⟩ | ⟨rfl, rfl⟩
    · cases made
      exact wellTyped_blankHome
    · cases made
      exact wellTyped_resident ""
    · cases made
      exact wellTyped_tenant "" (by simp) (by simp)
  constructs type bean c o found member := by
    rcases tenancy_cases found with ⟨rfl, rfl⟩ | ⟨rfl, rfl⟩ | ⟨rfl, rfl⟩ <;> cases member

end Sample

end ObjectGraph
