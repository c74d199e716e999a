import ObjectGraph.Proofs.Indexability

/-! The type that an object tells of a name, and what is read under the name.

Where getter methods give what they declare, what is read has the type that is told, be it a property
or an element of a container under the name. A map tells one type of every name, that of its values,
and for a name with a key this is the type of the container that the key looks into: what is read then
has the type of that container's elements.
-/

set_option autoImplicit false
namespace ObjectGraph
namespace Schema

variable {s : Schema} {o : Obj}

/-- A well-typed object that a slot of the type holds. -/
structure OfType (s : Schema) (t : Ty) (o : Obj) : Prop where
  conforms : t.Conforms o
  typed : s.WellTyped o

def Returns (s : Schema) (c : Class) : Prop :=
  ∀ m ∈ c.methods, ∀ read, m.body = .getter read → ∀ o v, s.WellTyped o → c.target.accepts o = true →
    read o = some v → s.OfType m.ty v.obj

/-- All getter methods give what they declare. -/
def ReturnsDeclared (s : Schema) : Prop :=
  ∀ type bean, s.bean? type = some bean → ∀ entry ∈ bean.lineage.classes, s.Returns entry.2

theorem returns_collection (s : Schema) : s.Returns .collection := by
  intro m member read body o v _ _ given
  cases List.mem_singleton.mp member
  cases body
  cases given
  exact ⟨Ty.accepts_iff.mp rfl, .scalar trivial⟩

theorem WellTyped.ofType {slot : Slot} {t : Ty} {part : Obj} (typed : s.WellTyped o)
    (declared : s.slotType? o slot = some t) (held : o.part? slot = some part) : s.OfType t part := by
  refine ⟨?_, typed.part held⟩
  have admits := typed.admits held
  cases o <;> cases slot <;>
    simp only [slotType?, Option.some.injEq, reduceCtorEq, Option.bind_eq_some_iff,
      Option.map_eq_some_iff] at declared
  case list.item => exact declared ▸ admits
  case array.item => exact declared ▸ admits
  case map.entry => exact declared ▸ admits.2 part rfl
  case bean.field =>
    obtain ⟨layout, layoutFound, slot, slotFound, rfl⟩ := declared
    exact admits.takes layoutFound slotFound

end Schema

namespace Lineage

variable {l : Lineage} {namer : PropertyNamer} {i : Invoker}

theorem bound_of_reader (reader : i ∈ l.readers namer) : ∃ c, (i.route, c) ∈ l.classes ∧ i.target = c.target ∧
    ((∃ f ∈ c.fields, i.member = .field f) ∨ ∃ m ∈ c.methods, ∃ path, i.member = .method m path) := by
  rcases List.mem_append.mp reader with reader | reader
  · obtain ⟨⟨route, c⟩, member, reader⟩ := List.mem_flatMap.mp reader
    obtain ⟨m, mMember, made⟩ := List.mem_filterMap.mp reader
    obtain ⟨property, _, rfl⟩ := Option.map_eq_some_iff.mp made
    exact ⟨c, member, rfl, .inr ⟨m, mMember, _, rfl⟩⟩
  · obtain ⟨⟨route, c⟩, member, reader⟩ := List.mem_flatMap.mp reader
    obtain ⟨f, fMember, rfl⟩ := List.mem_map.mp reader
    exact ⟨c, member, rfl, .inl ⟨f, (List.mem_filter.mp fMember).1, rfl⟩⟩

end Lineage

namespace Schema

variable {s : Schema} {o : Obj} {l : Lineage} {i : Invoker}

theorem ReturnsDeclared.returns (returns : s.ReturnsDeclared) (lineage : s.lineage? o.ty = some l)
    {entry : List Upcast × Class} (member : entry ∈ l.classes) : s.Returns entry.2 := by
  have container (same : l = .single .collection) : s.Returns entry.2 := by
    subst same
    cases List.mem_singleton.mp member
    exact s.returns_collection
  cases o with
  | scalar => cases lineage
  | bean type fields =>
    obtain ⟨bean, beanFound, rfl⟩ := Option.map_eq_some_iff.mp lineage
    exact returns type bean beanFound entry member
  | _ => exact container (Option.some.inj lineage).symm

theorem ReturnsDeclared.ofType_read (returns : s.ReturnsDeclared) (embedded : s.WellEmbedded)
    (typed : s.WellTyped o) (lineage : s.lineage? o.ty = some l) {namer : PropertyNamer}
    (reader : i ∈ l.readers namer) {v : Value} (read : i.read o = .ok (some v)) :
    s.OfType i.valueType v.obj := by
  obtain ⟨c, member, target, bound⟩ := Lineage.bound_of_reader reader
  obtain ⟨owner, followed, placed, accepts, slots⟩ := embedded.owner typed lineage member
  have ownerTyped := typed.at? placed
  have check : i.target.check owner = .ok () := by rw [Target.check, target, if_pos accepts]
  rcases bound with ⟨f, fMember, same⟩ | ⟨m, mMember, path, same⟩
  · simp only [Invoker.read, followed, Invoker.readMember, same, Field.read, bind, Except.bind, check, pure,
      Except.pure, mapError_ok, Except.ok.injEq, Option.map_eq_some_iff] at read
    obtain ⟨part, held, rfl⟩ := read
    rw [Invoker.valueType, same]
    exact ownerTyped.ofType (slots f fMember) held
  · rw [Invoker.valueType, same]
    cases body : m.body with
    | getter get =>
      simp only [Invoker.read, followed, Invoker.readMember, same, Method.callGet, body, bind,
        Except.bind, check, pure, Except.pure, mapError_ok, Except.ok.injEq] at read
      exact returns.returns lineage member m mMember get body owner v ownerTyped accepts read
    | companion | setter =>
      simp [Invoker.read, followed, Invoker.readMember, same, Method.callGet, body, bind, Except.bind] at read

end Schema

namespace Indexed

variable {s : Schema} {c v : Value} {segment : Segment} {t : Ty}

theorem ofType_read (typed : s.WellTyped c.obj) (declared : elementType c.obj segment = .ok t)
    (read : Indexed.read c segment = .ok (some v)) : s.OfType t v.obj := by
  obtain ⟨slot, denoted, held, _⟩ := part?_of_read read
  exact typed.ofType (slotType?_of_keySlot? s declared denoted) held

theorem elementType_of_read (read : Indexed.read c segment = .ok (some v)) :
    ∃ item, elementType c.obj segment = .ok item := by
  cases indexable : c.obj.isIndexable with
  | false =>
    rw [read_of_not_isIndexable indexable] at read
    cases read
  | true =>
    have told := (isSome_elementType c.obj segment).trans indexable
    cases declared : elementType c.obj segment with
    | ok item => exact ⟨item, rfl⟩
    | error e =>
      rw [declared] at told
      cases told

end Indexed

namespace Context

variable {ctx : Context} {o : Obj} {name : String} {v : Value}

/-- The type declared for the value of a name: that of the values of a map, or of a property. -/
def nameType? (ctx : Context) (o : Obj) (name : String) : Option Ty :=
  if o.isMap then MapAccess.valueType? o else (ctx.descriptorOf o).getterType? name

/-- A value that is read by a name has the type declared for it. -/
theorem ofType_readName (embedded : ctx.schema.WellEmbedded) (returns : ctx.schema.ReturnsDeclared)
    (typed : ctx.schema.WellTyped o) (read : ctx.readName o name = .ok (some v)) :
    ∃ t, ctx.nameType? o name = some t ∧ ctx.schema.OfType t v.obj := by
  unfold readName at read
  unfold nameType?
  cases isMap : o.isMap with
  | true =>
    obtain ⟨kind, key, value, entries, rfl⟩ := map_of_isMap isMap
    obtain ⟨part, held, rfl⟩ := Option.map_eq_some_iff.1 (Except.ok.inj read)
    unfold MapView.get? at held
    split at held
    next k _ =>
      have declared : ctx.schema.slotType? (.map kind key value entries) (.entry k) = some value := rfl
      exact ⟨value, rfl, typed.ofType declared held⟩
    · cases held
  | false =>
    rw [isMap] at read
    simp only [Bool.false_eq_true, if_false, BeanAccess.readProperty, Descriptor.getter] at read
    cases bound : (ctx.descriptorOf o).getter? name with
    | none =>
      rw [bound] at read
      cases read
    | some i =>
      rw [bound] at read
      obtain ⟨l, lineage, served⟩ := lineage?_of_getter? bound
      rw [Descriptor.getter?_build] at served
      refine ⟨i.valueType, by simp [Descriptor.getterType?, bound], ?_⟩
      exact returns.ofType_read embedded typed lineage (List.mem_of_find?_eq_some served) read

/-- A container that a key looks into is well typed, and has the type declared for the name before the
key. -/
theorem ofType_container {s : Segment} (embedded : ctx.schema.WellEmbedded)
    (returns : ctx.schema.ReturnsDeclared) (typed : ctx.schema.WellTyped o)
    (held : ctx.container o s = .ok (some v)) :
    s.name = "" ∧ v = .shared o ∨
      s.name ≠ "" ∧ ∃ t, ctx.nameType? o s.name = some t ∧ ctx.schema.OfType t v.obj := by
  unfold container at held
  by_cases own : s.name = ""
  · rw [if_pos own] at held
    cases held
    exact .inl ⟨own, rfl⟩
  · rw [if_neg own] at held
    exact .inr ⟨own, ofType_readName embedded returns typed held⟩

theorem conforms_of_container {s : Segment} {c : Value} (embedded : ctx.schema.WellEmbedded)
    (returns : ctx.schema.ReturnsDeclared) (typed : ctx.schema.WellTyped o)
    (held : ctx.container o s = .ok (some c)) (read : Indexed.read c s = .ok (some v)) :
    ∃ item, Indexed.elementType c.obj s = .ok item ∧ item.Conforms v.obj := by
  obtain ⟨item, declared⟩ := Indexed.elementType_of_read read
  have container : ctx.schema.WellTyped c.obj := by
    rcases ofType_container embedded returns typed held with ⟨_, rfl⟩ | ⟨_, _, _, ofType⟩
    · exact typed
    · exact ofType.typed
  exact ⟨item, declared, (Indexed.ofType_read container declared read).conforms⟩

end Context

namespace Navigator

variable {n : Navigator} {ctx : Context} {o : Obj} {name : String} {t : Ty} {v : Value}

section Told
variable (usual : ctx.Usual) (unadapted : ctx.schema.adapter? o = none) (found : n.obj? = some o)
include usual unadapted found

theorem getterType?_of_isMap (isMap : o.isMap = true) (name other : String) :
    n.getterType? ctx name = ctx.nameType? o other := by
  rw [Context.nameType?, if_pos isMap]
  exact inspect_of_isMap usual unadapted found isMap none _

theorem getterType?_of_plain (dotless : '.' ∉ name.toList) (plain : '[' ∉ name.toList) :
    n.getterType? ctx name = ctx.nameType? o name := by
  cases kind : o.isMap with
  | true => exact getterType?_of_isMap usual unadapted found kind name name
  | false =>
    rw [(answersByClass usual unadapted found kind).getterType?, Context.nameType?, kind]
    exact (BeanAccess.answers_of_plain ctx o dotless plain).2.2.1

theorem elementType_of_told {c : Value} (notMap : o.isMap = false) (dotless : '.' ∉ name.toList)
    (bracket : '[' ∈ name.toList) (held : ctx.container o ⟨name⟩ = .ok (some c))
    (told : n.getterType? ctx name = some t) : Indexed.elementType c.obj ⟨name⟩ = .ok t := by
  rw [getterType?_of_bracket usual unadapted found notMap dotless bracket, BeanAccess.elementType?,
    BeanAccess.container_eq notMap, held] at told
  dsimp only at told
  cases declared : Indexed.elementType c.obj ⟨name⟩ with
  | error e => rw [declared] at told; cases told
  | ok item => rw [declared] at told; cases told; rfl

end Told

/-- What is read has the type that is told of the name, except in a map for a name with a key: there the
type told is that of the container that the key looks into, and what is read has the type of the
elements that this container declares. -/
theorem read_reported (usual : ctx.Usual) (unadapted : ctx.schema.adapter? o = none)
    (found : n.obj? = some o) (embedded : ctx.schema.WellEmbedded) (returns : ctx.schema.ReturnsDeclared)
    (typed : ctx.schema.WellTyped o) (dotless : '.' ∉ name.toList) (told : n.getterType? ctx name = some t)
    (read : n.read ctx (.ofString name) = .ok (some v)) :
    (o.isMap = false ∨ '[' ∉ name.toList ∨ (⟨name⟩ : Segment).name = "" ∨ t = .any → t.Conforms v.obj) ∧
    (o.isMap = true → '[' ∈ name.toList → (⟨name⟩ : Segment).name ≠ "" → ∃ c item,
      ctx.container o ⟨name⟩ = .ok (some c) ∧ t.Conforms c.obj ∧
      Indexed.elementType c.obj ⟨name⟩ = .ok item ∧ item.Conforms v.obj) := by
  rw [read_of_dotless usual unadapted found dotless] at read
  by_cases bracket : '[' ∈ name.toList
  · rw [Segment.fetch_container (Segment.indexed_of_mem bracket)] at read
    split at read
    next c held =>
      obtain ⟨item, declared, element⟩ := Context.conforms_of_container embedded returns typed held read
      cases kind : o.isMap with
      | false =>
        have same := elementType_of_told usual unadapted found kind dotless bracket held told
        rw [declared] at same
        cases same
        exact ⟨fun _ => element, fun isMap => absurd isMap Bool.false_ne_true⟩
      -- A map tells the type of its values, which the container under a name has.
      | true =>
        rw [getterType?_of_isMap usual unadapted found kind name (⟨name⟩ : Segment).name] at told
        rcases Context.ofType_container embedded returns typed held with ⟨own, rfl⟩ | ⟨other, t', named, ofType⟩
        · obtain ⟨kind, key, value, entries, rfl⟩ := Context.map_of_isMap kind
          cases declared
          cases told
          exact ⟨fun _ => element, fun _ _ other => absurd own other⟩
        · rw [told] at named
          cases named
          refine ⟨?_, fun _ _ _ => ⟨c, item, held, ofType.conforms, declared, element⟩⟩
          rintro (notMap | plain | own | rfl)
          · cases notMap
          · exact absurd bracket plain
          · exact absurd own other
          · exact .any _
    · cases read
    · cases read
  · obtain ⟨unindexed, named⟩ := Segment.plain_of_not_mem bracket
    rw [Segment.fetch_name unindexed, named] at read
    rw [getterType?_of_plain usual unadapted found dotless bracket] at told
    obtain ⟨t', declared, ofType⟩ := Context.ofType_readName embedded returns typed read
    rw [told] at declared
    cases declared
    exact ⟨fun _ => ofType.conforms, fun _ indexed => absurd indexed bracket⟩

/-- A map of lists tells the type of the lists for an element of one of them. -/
theorem read_unreported :
    let items := Ty.list .vec (.int .i32)
    let lists := Obj.map .hash .str items [(.str "a", .list .vec (.int .i32) [.int .i32 5])]
    (readOnly lists).getterType? (.standard Sample.market) "a[0]" = some items ∧
    ∃ v, (readOnly lists).read (.standard Sample.market) (.ofString "a[0]") = .ok (some v) ∧
      ¬ items.Conforms v.obj :=
  ⟨rfl, _, rfl, fun conforms => absurd (conforms.ty_eq rfl) nofun⟩

end Navigator

namespace Sample

theorem till_returns : market.Returns (tillDecl.toClass tillMethods []) := by
  intro m member read body o v typed accepts given
  cases o with
  | bean type fields =>
    obtain rfl : "fx::Till" = type := beq_iff_eq.1 accepts
    simp only [BeanDecl.toClass, tillMethods, List.mem_cons, List.not_mem_nil, or_false] at member
    rcases member with rfl | rfl | rfl | rfl <;> cases body
    · obtain ⟨site, held, rfl⟩ := Option.map_eq_some_iff.1 given
      have declared : market.slotType? (.bean "fx::Till" fields) (.field "site") =
          some (.bean "fx::Home") := rfl
      exact typed.ofType declared held
    · obtain ⟨coins, _, rfl⟩ := Option.map_eq_some_iff.1 given
      exact ⟨Ty.accepts_iff.1 rfl, .scalar trivial⟩
  | _ => cases accepts

theorem market_returnsDeclared : market.ReturnsDeclared := by
  intro type bean found entry member
  rcases market_cases found with ⟨rfl, rfl⟩ | ⟨rfl, rfl⟩ | ⟨rfl, rfl⟩
  · cases List.mem_singleton.1 member
    exact nofun
  · cases List.mem_singleton.1 member
    exact till_returns
  · rcases List.mem_cons.1 member with rfl | member
    · exact nofun
    · cases List.mem_singleton.1 member
      exact till_returns

end Sample

open Sample in
/-- Whether the till of a kiosk is empty is told to be a truth value, and is one. -/
theorem Navigator.read_reported_kiosk : ∃ v,
    (readOnly (kiosk "A" [])).getterType? (.standard market) "empty" = some .bool ∧
    (readOnly (kiosk "A" [])).read (.standard market) (.ofString "empty") = .ok (some v) ∧
    Ty.bool.Conforms v.obj := by
  have told : (readOnly (kiosk "A" [])).getterType? (.standard market) "empty" = some .bool := rfl
  have read : (readOnly (kiosk "A" [])).read (.standard market) (.ofString "empty") =
      .ok (some (.detached (.bool true))) := rfl
  have reported := read_reported (Context.usual_standard market) rfl rfl market_wellEmbedded
    market_returnsDeclared (wellTyped_kiosk "A") (by decide) told read
  exact ⟨_, told, read, reported.1 (.inl rfl)⟩

end ObjectGraph
