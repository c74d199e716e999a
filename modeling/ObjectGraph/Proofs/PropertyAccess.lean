import ObjectGraph.Proofs.KeyAccess

/-! Access by name: keys of maps and properties of beans.

A name is a key of a map. Elsewhere it is a property, which the first member of the lineage serves
that the namer maps to it. Where no accessor method claims a name, its value is read and written in
the slots of fields, and in one slot unless a class redeclares a field of an embedded parent.
-/

set_option autoImplicit false
namespace ObjectGraph

namespace Context

variable {ctx : Context} {o o' : Obj} {name : String} {place : Place} {slot : Slot}

theorem source_map (isMap : o.isMap = true) :
    ctx.source o (.property name) = some (place, slot) ↔ o.keySlot? name = some slot ∧ place = [] := by
  simp only [source, slotBy, isMap, if_true, Option.map_eq_some_iff, Prod.mk.injEq]
  constructor
  · rintro ⟨_, denoted, rfl, rfl⟩
    exact ⟨denoted, rfl⟩
  · rintro ⟨denoted, rfl⟩
    exact ⟨slot, denoted, rfl, rfl⟩

theorem sink_map (ctx : Context) (isMap : o.isMap = true) (name : String) :
    ctx.sink o (.property name) = ctx.source o (.property name) := by
  simp only [sink, source, slotBy, isMap, if_true]

theorem map_of_isMap (isMap : o.isMap = true) :
    ∃ kind key value entries, o = .map kind key value entries := by
  cases o <;> first | exact ⟨_, _, _, _, rfl⟩ | cases isMap

theorem maps_of_isMap (isMap : o.isMap = true) (ty : o'.ty = o.ty) :
    ∃ kind key value entries entries', o = .map kind key value entries ∧
      o' = .map kind key value entries' := by
  obtain ⟨kind, key, value, entries, rfl⟩ := map_of_isMap isMap
  cases o' <;> cases ty
  exact ⟨kind, key, value, entries, _, rfl, rfl⟩

end Context

namespace MapAccess

variable (ctx : Context) {o o' : Obj}

def readKey (o : Obj) (name : String) : Except AccessError (Option Value) := do
  return ((← asMap o "property reads").get? name).map Value.shared

theorem readKey_of_source {name : String} {place : Place} {slot : Slot} (isMap : o.isMap = true)
    (source : ctx.source o (.property name) = some (place, slot)) :
    readKey o name = .ok ((o.at? (place ++ [slot])).map Value.shared) := by
  obtain ⟨denoted, rfl⟩ := (Context.source_map isMap).mp source
  obtain ⟨kind, key, value, entries, rfl⟩ := Context.map_of_isMap isMap
  obtain ⟨k, read, rfl⟩ := Option.map_eq_some_iff.mp denoted
  rw [List.nil_append, Obj.at?_singleton]
  simp [readKey, asMap, Obj.view, MapView.get?, read, Obj.part?, bind, Except.bind, pure, Except.pure]

def borrowKey (name : String) : Edit AccessError (Option Place) := do
  return keyPlace (← Edit.ofExcept (asMap (← get) "property writes")) name

theorem borrowKey_of_source {name : String} {place : Place} {slot : Slot} (isMap : o.isMap = true)
    (source : ctx.source o (.property name) = some (place, slot)) :
    borrowKey name o = .ok ((o.at? (place ++ [slot])).map fun _ => place ++ [slot]) o := by
  obtain ⟨denoted, rfl⟩ := (Context.source_map isMap).mp source
  obtain ⟨kind, key, value, entries, rfl⟩ := Context.map_of_isMap isMap
  obtain ⟨k, read, rfl⟩ := Option.map_eq_some_iff.mp denoted
  have same : borrowKey name (.map kind key value entries) =
      .ok (keyPlace ⟨kind, key, value, entries⟩ name) (.map kind key value entries) := rfl
  rw [List.nil_append, Obj.at?_singleton, same]
  simp [keyPlace, read, Obj.part?]

theorem lends (isMap : o.isMap = true) (name : String) :
    ctx.Lends o [.property name] (borrowKey name o) := by
  obtain ⟨kind, key, value, entries, rfl⟩ := Context.map_of_isMap isMap
  have same : borrowKey name (.map kind key value entries) =
      .ok (keyPlace ⟨kind, key, value, entries⟩ name) (.map kind key value entries) := rfl
  rw [same]
  cases placed : keyPlace ⟨kind, key, value, entries⟩ name with
  | none =>
    refine .absent fun place slot reads => ?_
    obtain ⟨denoted, rfl⟩ := (Context.source_map isMap).mp (Context.reaches_singleton.mp reads)
    obtain ⟨k, read, rfl⟩ := Option.map_eq_some_iff.mp denoted
    rw [List.nil_append, Obj.at?_singleton]
    simpa [keyPlace, read, Obj.part?] using placed
  | some place =>
    unfold keyPlace at placed
    split at placed
    next k read =>
      obtain ⟨part, held, rfl⟩ := Option.map_eq_some_iff.mp placed
      have reads : ctx.ReadsFrom (.map kind key value entries) [.property name] [] (.entry k) :=
        .last ((Context.source_map isMap).mpr ⟨by simpa [Obj.keySlot?] using read, rfl⟩)
      exact .found reads ((Obj.at?_singleton _ _).trans held)
    · cases placed

theorem storesBoth (isMap : o.isMap = true) (ty : o'.ty = o.ty) (s : Segment) (v : Option Obj) :
    ctx.StoresBoth o o' [.property s.name] v (writeKey s v o) (writeKey s v o') := by
  have same := Context.sink_map ctx isMap s.name
  obtain ⟨kind, key, value, entries, entries', rfl, rfl⟩ := Context.maps_of_isMap isMap ty
  have denoted (k : Key) (read : Key.read? key s.name = some k) :
      ctx.sink (.map kind key value entries) (.property s.name) = some ([], .entry k) :=
    same.trans ((Context.source_map isMap).mpr ⟨by simpa [Obj.keySlot?] using read, rfl⟩)
  have stores := Context.storesBoth_entry ctx entries' denoted
    (.incompatibleValue s.text (Obj.map kind key value entries).typeName) v
  cases v <;> exact stores

theorem makesBoth (usual : ctx.Usual) (isMap : o.isMap = true) (ty : o'.ty = o.ty) (s : Segment) :
    ctx.MakesBoth o o' [.property s.name] (instantiateKey ctx s o) (instantiateKey ctx s o') := by
  have stores (v) := storesBoth ctx isMap ty s v
  have type : o'.typeName = o.typeName := congrArg Ty.name ty
  obtain ⟨kind, key, value, entries, entries', rfl, rfl⟩ := Context.maps_of_isMap isMap ty
  simp only [instantiateKey, Edit.bind_apply, Edit.get_apply, valueType?, Obj.view,
    Context.createMissing_congr ctx type]
  cases created : ctx.createMissing (.map kind key value entries) s s.name (missingType value) with
  | error e => exact .failed e
  | ok new =>
    simp only [Edit.ofExcept_ok_apply]
    have stores := stores (some new)
    generalize writeKey s (some new) (.map kind key value entries) = r at stores
    generalize writeKey s (some new) (.map kind key value entries') = r' at stores
    cases stores with
    | failed e => exact .failed e
    | nothing isNone => cases isNone
    | @stored place slot writes admits admits' =>
      -- What was stored is lent under the same key, so the new entry is found again.
      have written := Context.reaches_singleton.mp writes
      rw [Context.sink_map ctx isMap] at written
      obtain ⟨denoted, rfl⟩ := (Context.source_map isMap).mp written
      obtain ⟨k, read, rfl⟩ := Option.map_eq_some_iff.mp denoted
      have made := usual.make_missingType (Context.createMissing_ok created)
      have found (entries : Entries) :
          keyPlace ⟨kind, key, value, Entries.insert kind.before k new entries⟩ s.name =
            some [.entry k] := by
        simp [keyPlace, read]
      simp only [Obj.assign_nil, Obj.put, asMap, Obj.view, Edit.ofExcept_ok_apply, found]
      exact .made (.last written) writes admits admits' ⟨_, value, rfl, rfl, made⟩

end MapAccess

namespace Context

/-- The object has no adapter of its own, and no accessor method of its class claims the name. -/
structure Plain (ctx : Context) (o : Obj) (name : String) : Prop where
  unadapted : ctx.schema.adapter? o = none
  served : ∀ type bean, o.ty = .bean type → ctx.schema.bean? type = some bean →
    bean.lineage.ServedByFields ctx.namer name

def DeclaredOnce (ctx : Context) (o : Obj) : Prop :=
  ∀ type bean, o.ty = .bean type → ctx.schema.bean? type = some bean → bean.lineage.DeclaresOnce

variable {ctx : Context} {o o' : Obj} {name : String} {i : Invoker} {place : Place} {slot : Slot}

theorem adapter?_congr (same : o'.ty = o.ty) : ctx.schema.adapter? o' = ctx.schema.adapter? o := by
  cases o <;> cases o' <;> simp_all [Obj.ty, Schema.adapter?]

theorem isMap_congr (same : o'.ty = o.ty) : o'.isMap = o.isMap := by
  cases o <;> cases o' <;> simp_all [Obj.ty, Obj.isMap, Obj.kind]

theorem slotBy_congr {serves : Descriptor → String → Option Invoker} (same : o'.ty = o.ty)
    (a : AccessStep) : ctx.slotBy serves o' a = ctx.slotBy serves o a := by
  cases a with
  | property name =>
    simp only [slotBy, isMap_congr same, adapter?_congr same, descriptorOf, same,
      Obj.keySlot?_congr same]
  | key text => simp only [slotBy, Obj.keySlot?_congr same]

theorem descriptorOf_congr (same : o'.ty = o.ty) : ctx.descriptorOf o' = ctx.descriptorOf o := by
  simp only [descriptorOf, same]

theorem Plain.congr (plain : ctx.Plain o name) (same : o'.ty = o.ty) : ctx.Plain o' name where
  unadapted := (adapter?_congr same).trans plain.unadapted
  served := same ▸ plain.served

theorem lineage?_cases {l : Lineage} (found : ctx.schema.lineage? o.ty = some l) :
    (∃ type bean, o.ty = .bean type ∧ ctx.schema.bean? type = some bean ∧ l = bean.lineage) ∨
      l = .single .collection := by
  cases o with
  | bean type fields =>
    obtain ⟨bean, beanFound, rfl⟩ := Option.map_eq_some_iff.mp found
    exact .inl ⟨type, bean, rfl, beanFound, rfl⟩
  | scalar => cases found
  | list => exact .inr (Option.some.inj found).symm
  | array => exact .inr (Option.some.inj found).symm
  | map => exact .inr (Option.some.inj found).symm
  | set => exact .inr (Option.some.inj found).symm

theorem lineage?_of_serves (serves : Descriptor → Option Invoker)
    (none_serves : serves (.build ctx.namer o.ty none) = none)
    (found : serves (ctx.descriptorOf o) = some i) : ∃ l, ctx.schema.lineage? o.ty = some l ∧
      serves (.build ctx.namer o.ty (some l)) = some i := by
  unfold descriptorOf descriptor at found
  cases lineage : ctx.schema.lineage? o.ty with
  | none => rw [lineage, none_serves] at found; cases found
  | some l => rw [lineage] at found; exact ⟨l, rfl, found⟩

theorem lineage?_of_getter? (found : (ctx.descriptorOf o).getter? name = some i) :
    ∃ l, ctx.schema.lineage? o.ty = some l ∧
      (Descriptor.build ctx.namer o.ty (some l)).getter? name = some i :=
  lineage?_of_serves (·.getter? name) rfl found

theorem lineage?_of_setter? (found : (ctx.descriptorOf o).setter? name = some i) :
    ∃ l, ctx.schema.lineage? o.ty = some l ∧
      (Descriptor.build ctx.namer o.ty (some l)).setter? name = some i :=
  lineage?_of_serves (·.setter? name) rfl found

theorem collection_readers {namer : PropertyNamer}
    (member : i ∈ (Lineage.single .collection).readers namer) :
    i.route = [] ∧ ∃ m, i.member = .method m .none := by
  rcases List.mem_append.mp member with member | member
  · obtain ⟨entry, entryMember, member⟩ := List.mem_flatMap.mp member
    cases List.mem_singleton.mp entryMember
    obtain ⟨m, mMember, made⟩ := List.mem_filterMap.mp member
    obtain ⟨property, _, rfl⟩ := Option.map_eq_some_iff.mp made
    cases List.mem_singleton.mp mMember
    exact ⟨rfl, _, rfl⟩
  · obtain ⟨entry, entryMember, member⟩ := List.mem_flatMap.mp member
    cases List.mem_singleton.mp entryMember
    cases member

theorem collection_writers (namer : PropertyNamer) :
    (Lineage.single .collection).writers namer = [] := rfl

section Served
variable (sound : ctx.schema.Sound) (typed : ctx.schema.WellTyped o)
include sound typed

theorem leadsTo_of_member {f : Field} (found : (ctx.descriptorOf o).getter? name = some i)
    (member : i.member = .field f) : ∃ owner, i.LeadsTo o f owner := by
  obtain ⟨l, lineage, found⟩ := lineage?_of_getter? found
  rw [Descriptor.getter?_build] at found
  have reader := List.mem_of_find?_eq_some found
  rcases lineage?_cases lineage with ⟨type, bean, isBean, beanFound, rfl⟩ | rfl
  · obtain ⟨c, ofField⟩ := Lineage.ofField_of_member reader member
    obtain ⟨owner, _, leads, _⟩ := sound.leadsTo beanFound typed isBean ofField
    exact ⟨owner, leads⟩
  · obtain ⟨_, m, isMethod⟩ := collection_readers reader
    rw [member] at isMethod
    cases isMethod

/-- Where no method claims a property, a field serves it, or it cannot be lent. -/
theorem Plain.getter? (plain : ctx.Plain o name)
    (found : (ctx.descriptorOf o).getter? name = some i) :
    (∃ f owner, i.LeadsTo o f owner) ∨ i.route = [] ∧ ∃ m, i.member = .method m .none := by
  obtain ⟨l, lineage, built⟩ := lineage?_of_getter? found
  rcases lineage?_cases lineage with ⟨type, bean, isBean, beanFound, rfl⟩ | rfl
  · obtain ⟨c, f, ofField⟩ :=
      Descriptor.getter?_ofField (plain.served type bean isBean beanFound) built
    obtain ⟨owner, leads⟩ := leadsTo_of_member sound typed found ofField.member
    exact .inl ⟨f, owner, leads⟩
  · rw [Descriptor.getter?_build] at built
    exact .inr (collection_readers (List.mem_of_find?_eq_some built))

/-- Where no method claims a property, it is written through a field whose slot takes what the field
accepts. -/
theorem Plain.setter? (plain : ctx.Plain o name)
    (found : (ctx.descriptorOf o).setter? name = some i) : ∃ f owner, i.LeadsTo o f owner ∧
      f.readonly = false ∧ ctx.schema.slotType? owner (.field f.slot) = some f.ty ∧
      ∀ v w, f.ty.argument f.nullable v = .ok w →
        ctx.schema.AdmitsAt o (Upcast.place i.route) (.field f.slot) w := by
  obtain ⟨l, lineage, built⟩ := lineage?_of_setter? found
  rcases lineage?_cases lineage with ⟨type, bean, isBean, beanFound, rfl⟩ | rfl
  · obtain ⟨c, f, ofField, writable⟩ :=
      Descriptor.setter?_ofField (plain.served type bean isBean beanFound) built
    obtain ⟨owner, type', leads, ownerIsBean, fits⟩ := sound.leadsTo beanFound typed isBean ofField
    obtain ⟨has, admits⟩ := fits.slot ofField.mem_fields (typed.at? leads.found) ownerIsBean
    exact ⟨f, owner, leads, writable, fits.slotType? ofField.mem_fields ownerIsBean,
      fun v w accepted => ⟨owner, leads.found, has, admits v w accepted⟩⟩
  · rw [Descriptor.setter?_build, collection_writers] at built
    cases built

omit typed in
theorem Plain.apart {j : Invoker} {f g : Field} (plain : ctx.Plain o name)
    (found : (ctx.descriptorOf o).getter? name = some i) (member : i.member = .field f)
    (found' : (ctx.descriptorOf o).setter? name = some j) (member' : j.member = .field g) :
    Upcast.place i.route = Upcast.place j.route ∧ f.slot = g.slot ∨
      Diverge (Upcast.place i.route ++ [.field f.slot]) (Upcast.place j.route ++ [.field g.slot]) := by
  obtain ⟨l, lineage, built⟩ := lineage?_of_getter? found
  obtain ⟨l', lineage', built'⟩ := lineage?_of_setter? found'
  rw [lineage] at lineage'
  cases lineage'
  rcases lineage?_cases lineage with ⟨type, bean, isBean, beanFound, rfl⟩ | rfl
  · have served := plain.served type bean isBean beanFound
    obtain ⟨c, f', reads⟩ := Descriptor.getter?_ofField served built
    obtain ⟨d, g', writes, _⟩ := Descriptor.setter?_ofField served built'
    cases member.symm.trans reads.member
    cases member'.symm.trans writes.member
    exact (sound.embeds type bean beanFound).apart reads.mem_classes writes.mem_classes
      reads.mem_fields writes.mem_fields
  · rw [Descriptor.setter?_build, collection_writers] at built'
    cases built'

theorem Plain.reads_of_writes (plain : ctx.Plain o name) (once : ctx.DeclaredOnce o)
    (writes : ctx.WritesTo o [.property name] place slot) :
    ctx.ReadsFrom o [.property name] place slot := by
  have sink := reaches_singleton.mp writes
  refine .last ?_
  cases notMap : o.isMap with
  | true => exact (sink_map ctx notMap name).symm.trans sink
  | false =>
    simp only [Context.sink, Context.source, slotBy, notMap, plain.unadapted, Option.isSome_none,
      Bool.false_eq_true, if_false] at sink ⊢
    obtain ⟨j, written, served⟩ := Option.bind_eq_some_iff.mp sink
    obtain ⟨l, lineage, built⟩ := lineage?_of_setter? written
    rcases lineage?_cases lineage with ⟨type, bean, isBean, beanFound, rfl⟩ | rfl
    · obtain ⟨i, c, f, g, read, route, reads, writes, names⟩ := Descriptor.getter?_of_setter?
        (plain.served type bean isBean beanFound) (once type bean isBean beanFound) built
      obtain ⟨_, _, _, _, fits⟩ := sound.leadsTo beanFound typed isBean reads
      have slots := fits.named f reads.mem_fields g writes.mem_fields names
      -- The getter of the lineage is the one of the object's descriptor.
      have read : (ctx.descriptorOf o).getter? name = some i := by
        rw [descriptorOf, descriptor, lineage]
        exact read
      rw [read, Option.bind_some, ← served]
      simp only [Invoker.slot?, reads.member, writes.member, route, slots]
    · rw [Descriptor.setter?_build, collection_writers] at built
      cases built

end Served

end Context

namespace Context

variable {ctx : Context} {o owner : Obj} {name : String} {i : Invoker} {f : Field}

theorem source_of_leadsTo (notMap : o.isMap = false) (plain : ctx.Plain o name)
    (found : (ctx.descriptorOf o).getter? name = some i) (leads : i.LeadsTo o f owner) :
    ctx.source o (.property name) = some (Upcast.place i.route, .field f.slot) := by
  simp [source, slotBy, notMap, plain.unadapted, found, leads.slot?]

theorem sink_of_leadsTo (notMap : o.isMap = false) (plain : ctx.Plain o name)
    (found : (ctx.descriptorOf o).setter? name = some i) (leads : i.LeadsTo o f owner) :
    ctx.sink o (.property name) = some (Upcast.place i.route, .field f.slot) := by
  simp [sink, slotBy, notMap, plain.unadapted, found, leads.slot?]

theorem getter?_of_source {place : Place} {slot : Slot} (notMap : o.isMap = false)
    (source : ctx.source o (.property name) = some (place, slot)) :
    ∃ i f, (ctx.descriptorOf o).getter? name = some i ∧ i.member = .field f ∧
      place = Upcast.place i.route ∧ slot = .field f.slot := by
  simp only [Context.source, slotBy, notMap, Bool.false_eq_true, if_false] at source
  split at source
  · cases source
  · obtain ⟨i, found, served⟩ := Option.bind_eq_some_iff.mp source
    unfold Invoker.slot? at served
    split at served
    next f member => cases served; exact ⟨i, f, found, member, rfl, rfl⟩
    · cases served

end Context

namespace BeanAccess

variable {ctx : Context} {o : Obj} {name : String}

def readProperty (ctx : Context) (o : Obj) (name : String) : Except AccessError (Option Value) := do
  (← (ctx.descriptorOf o).getter name).read o

theorem readProperty_of_source {place : Place} {slot : Slot} (sound : ctx.schema.Sound)
    (typed : ctx.schema.WellTyped o) (notMap : o.isMap = false)
    (source : ctx.source o (.property name) = some (place, slot)) :
    readProperty ctx o name = .ok ((o.at? (place ++ [slot])).map Value.shared) := by
  obtain ⟨i, f, found, member, rfl, rfl⟩ := Context.getter?_of_source notMap source
  obtain ⟨owner, leads⟩ := Context.leadsTo_of_member sound typed found member
  rw [Obj.at?_concat leads.found, ← Invoker.read_of_leadsTo leads]
  simp only [readProperty, Descriptor.getter, found]
  rfl

def borrowProperty (ctx : Context) (name : String) : Edit AccessError (Option Place) := do
  (← Edit.ofExcept ((ctx.descriptorOf (← get)).getter name)).borrow

theorem borrowProperty_of_source {place : Place} {slot : Slot} (sound : ctx.schema.Sound)
    (typed : ctx.schema.WellTyped o) (notMap : o.isMap = false)
    (source : ctx.source o (.property name) = some (place, slot)) :
    borrowProperty ctx name o =
      .ok ((o.at? (place ++ [slot])).map fun _ => place ++ [slot]) o := by
  obtain ⟨i, f, found, member, rfl, rfl⟩ := Context.getter?_of_source notMap source
  obtain ⟨owner, leads⟩ := Context.leadsTo_of_member sound typed found member
  rw [Obj.at?_concat leads.found, ← Invoker.borrow_of_leadsTo leads]
  simp only [borrowProperty, Edit.bind_apply, Edit.get_apply, Descriptor.getter, found,
    Edit.ofExcept_ok_apply]

def writeProperty (ctx : Context) (name : String) (v : Option Obj) : Edit AccessError Unit := do
  (← Edit.ofExcept ((ctx.descriptorOf (← get)).setter name)).write v

section Served
variable (sound : ctx.schema.Sound) (typed : ctx.schema.WellTyped o) (notMap : o.isMap = false)
  (plain : ctx.Plain o name)
include sound typed notMap plain

theorem lends : ctx.Lends o [.property name] (borrowProperty ctx name o) := by
  simp only [borrowProperty, Edit.bind_apply, Edit.get_apply, Descriptor.getter]
  cases found : (ctx.descriptorOf o).getter? name with
  | none => exact .failed _
  | some i =>
    rcases plain.getter? sound typed found with ⟨f, owner, leads⟩ | ⟨root, m, isMethod⟩
    · have reads : ctx.ReadsFrom o [.property name] (Upcast.place i.route) (.field f.slot) :=
        .last (Context.source_of_leadsTo notMap plain found leads)
      simp only [Edit.ofExcept_ok_apply, Invoker.borrow_of_leadsTo leads]
      cases held : owner.part? (.field f.slot) with
      | none =>
        refine .absent fun place slot others => ?_
        obtain ⟨rfl, rfl⟩ := reads.unique others
        exact (Obj.at?_concat leads.found _).trans held
      | some part => exact .found reads ((Obj.at?_concat leads.found _).trans held)
    · simp only [Edit.ofExcept_ok_apply, Invoker.borrow_of_method root isMethod]
      exact .failed _

variable {o' : Obj} (ty : o'.ty = o.ty) (typed' : ctx.schema.WellTyped o')
include ty typed'

theorem storesBoth (v : Option Obj) : ctx.StoresBoth o o' [.property name] v
    (writeProperty ctx name v o) (writeProperty ctx name v o') := by
  have type : o'.typeName = o.typeName := congrArg Ty.name ty
  have descriptor : ctx.descriptorOf o' = ctx.descriptorOf o := Context.descriptorOf_congr ty
  simp only [writeProperty, Edit.bind_apply, Edit.get_apply, Descriptor.setter, descriptor]
  cases found : (ctx.descriptorOf o).setter? name with
  | none => exact .failed _
  | some i =>
    obtain ⟨f, owner, leads, writable, _, admits⟩ := plain.setter? sound typed found
    obtain ⟨g, owner', leads', _, _, admits'⟩ :=
      (plain.congr ty).setter? sound typed' (descriptor ▸ found)
    cases leads.member.symm.trans leads'.member
    simp only [Edit.ofExcept_ok_apply, Invoker.write_of_leadsTo leads writable,
      Invoker.write_of_leadsTo leads' writable, type]
    cases accepted : f.ty.argument f.nullable v with
    | error e => exact .failed _
    | ok w =>
      have admits := admits v w accepted
      have admits' := admits' v w accepted
      obtain ⟨rfl, _⟩ := Ty.argument_ok accepted f.slot
      exact .stored (.last (Context.sink_of_leadsTo notMap plain found leads)) admits admits'

theorem makesBoth (usual : ctx.Usual) {s : Segment} (named : s.name = name)
    (absent : ∀ place slot, ctx.ReadsFrom o [.property name] place slot →
      o.at? (place ++ [slot]) = none)
    (absent' : ∀ place slot, ctx.ReadsFrom o' [.property name] place slot →
      o'.at? (place ++ [slot]) = none) :
    ctx.MakesBoth o o' [.property name] (instantiateProperty ctx s o) (instantiateProperty ctx s o') := by
  have type : o'.typeName = o.typeName := congrArg Ty.name ty
  have descriptor : ctx.descriptorOf o' = ctx.descriptorOf o := Context.descriptorOf_congr ty
  simp only [instantiateProperty, Edit.bind_apply, Edit.get_apply, Descriptor.setter,
    Descriptor.getter, named, descriptor, type, Context.createMissing_congr ctx type]
  cases written : (ctx.descriptorOf o).setter? name with
  | none => exact .failed _
  | some j =>
  cases read : (ctx.descriptorOf o).getter? name with
  | none => exact .failed _
  | some i =>
  simp only [Edit.ofExcept_ok_apply]
  cases borrowable : i.ensureBorrowable o.typeName with
  | error e => exact .failed e
  | ok _ =>
  cases created : ctx.createMissing o s name j.valueType with
  | error e => exact .failed e
  | ok new =>
  obtain ⟨f, owner, leads, writable, declared, admits⟩ := plain.setter? sound typed written
  obtain ⟨f', owner', leads', _, _, admits'⟩ :=
    (plain.congr ty).setter? sound typed' (descriptor ▸ written)
  cases leads.member.symm.trans leads'.member
  have made : ctx.objects.make f.ty = .ok new := by
    have made := Context.createMissing_ok created
    rwa [Invoker.valueType, leads.member] at made
  simp only [Edit.ofExcept_ok_apply, Invoker.write_of_leadsTo leads writable,
    Invoker.write_of_leadsTo leads' writable, type]
  cases accepted : f.ty.argument f.nullable (some new) with
  | error e => exact .failed _
  | ok w =>
  have admits := admits _ _ accepted
  have admits' := admits' _ _ accepted
  obtain ⟨rfl, _⟩ := Ty.argument_ok accepted f.slot
  have creates : ctx.Creates o (Upcast.place j.route) (.field f.slot) new :=
    ⟨owner, f.ty, leads.found, declared, made⟩
  have writes : ctx.WritesTo o [.property name] (Upcast.place j.route) (.field f.slot) :=
    .last (Context.sink_of_leadsTo notMap plain written leads)
  -- The value is in the slot that is written. Whether it can be lent depends on the slot that is read.
  rcases plain.getter? sound typed read with ⟨g, before, leadsBefore⟩ | ⟨_, m, isMethod⟩
  · have source := Context.source_of_leadsTo notMap plain read leadsBefore
    have reads : ctx.ReadsFrom o [.property name] (Upcast.place i.route) (.field g.slot) := .last source
    have reads' : ctx.ReadsFrom o' [.property name] (Upcast.place i.route) (.field g.slot) :=
      .last ((Context.slotBy_congr ty _).trans source)
    -- After the write the getter leads there again, since the type of the object is the same.
    have lends {x : Obj} (same : x.ty = o.ty) (xTyped : ctx.schema.WellTyped x)
        (xAdmits : ctx.schema.AdmitsAt x (Upcast.place j.route) (.field f.slot) (some new)) :
        let x' := x.assign (Upcast.place j.route) (.field f.slot) (some new)
        i.borrow x' = .ok ((x'.at? (Upcast.place i.route ++ [.field g.slot])).map fun _ =>
          Upcast.place i.route ++ [.field g.slot]) x' := by
      intro x'
      have xTyped' : ctx.schema.WellTyped x' := xTyped.assign xAdmits fun _ eq =>
        Option.some.inj eq ▸ usual.make_wellTyped sound made
      have read' : (ctx.descriptorOf x').getter? name = some i := by
        rwa [Context.descriptorOf_congr ((Obj.ty_assign x _ _ _).trans same)]
      obtain ⟨after, leadsAfter⟩ := Context.leadsTo_of_member sound xTyped' read' leadsBefore.member
      rw [Invoker.borrow_of_leadsTo leadsAfter, Obj.at?_concat leadsAfter.found]
    simp only [lends rfl typed admits, lends ty typed' admits']
    rcases plain.apart sound read leadsBefore.member written leads.member with
      ⟨places, slots⟩ | diverge
    · rw [places, slots] at reads ⊢
      rw [Obj.at?_assign new admits.hasSlotAt, Obj.at?_assign new admits'.hasSlotAt]
      exact .made reads writes admits admits' creates
    -- The slot that is read lies elsewhere. It was empty and still is.
    · rw [(Obj.agreeOff_assign o _ _ (some new)).at? diverge.symm, absent _ _ reads,
        (Obj.agreeOff_assign o' _ _ (some new)).at? diverge.symm, absent' _ _ reads']
      refine .lost _ writes (fun others => ?_) admits creates
      obtain ⟨places, slots⟩ := reads.unique others
      rw [places, slots] at diverge
      exact diverge.irrefl
  · simp [Invoker.ensureBorrowable, Invoker.canBorrow, isMethod] at borrowable

end Served

end BeanAccess

end ObjectGraph
