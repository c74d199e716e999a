import ObjectGraph.Proofs.Declared

/-! Calls of the members that descriptors bind.

A descriptor reads a property by a field or a getter and writes it by a field that is not read-only or
by a setter, and the route leads to an object of the member's class. So a read never fails, a borrow
fails only where the check before it does, and a write only for its argument.
-/

set_option autoImplicit false
namespace ObjectGraph

inductive Member.Reads : Member → Prop where
  | field (f : Field) : Reads (.field f)
  | getter {m : Method} {path : MutablePath} : m.isGetter = true →
    (∀ c, path = .companion c → c.isCompanion = true) → Reads (.method m path)

inductive Member.Writes : Member → Prop where
  | field {f : Field} : f.readonly = false → Writes (.field f)
  | setter {m : Method} {path : MutablePath} : m.isSetter = true → Writes (.method m path)

theorem Class.isCompanion_of_mutablePath {c : Class} {getter property : String} {m : Method}
    (found : c.mutablePath getter property = .companion m) : m.isCompanion = true := by
  unfold mutablePath at found
  split at found
  next m' companion =>
    cases found
    have accepted := List.find?_some companion
    rw [Bool.and_eq_true] at accepted
    exact accepted.1
  · split at found <;> cases found

theorem Method.isGetter_of_readProperty? {m : Method} {namer : PropertyNamer} {property : String}
    (reads : m.readProperty? namer = some property) : m.isGetter = true := by
  unfold readProperty? at reads
  split at reads
  next accepted =>
    rw [Bool.and_eq_true, Bool.and_eq_true] at accepted
    exact accepted.1.1
  · cases reads

theorem Method.isSetter_of_writtenProperty? {m : Method} {namer : PropertyNamer} {property : String}
    (writes : m.writtenProperty? namer = some property) : m.isSetter = true := by
  unfold writtenProperty? at writes
  split at writes
  next accepted =>
    rw [Bool.and_eq_true] at accepted
    exact accepted.1
  · cases writes

def Invoker.Within (i : Invoker) (l : Lineage) : Prop :=
  ∃ c, (i.route, c) ∈ l.classes ∧ i.target = c.target

theorem mem_of_mem_firstOfEach {i : Invoker} {invokers : List Invoker}
    (member : i ∈ firstOfEach invokers) : i ∈ invokers := by
  induction invokers with
  | nil => exact member
  | cons first rest ih =>
    rcases List.mem_cons.mp member with rfl | member
    · exact List.mem_cons_self
    · exact List.mem_cons_of_mem _ (ih (List.mem_filter.mp member).1)

namespace Lineage

variable {l : Lineage} {namer : PropertyNamer} {i : Invoker}

theorem reads_of_reader (reader : i ∈ l.readers namer) : i.Within l ∧ i.member.Reads := by
  rcases List.mem_append.mp reader with reader | reader
  · obtain ⟨⟨route, c⟩, member, reader⟩ := List.mem_flatMap.mp reader
    obtain ⟨m, _, made⟩ := List.mem_filterMap.mp reader
    obtain ⟨property, reads, rfl⟩ := Option.map_eq_some_iff.mp made
    refine ⟨⟨c, member, rfl⟩, .getter (Method.isGetter_of_readProperty? reads) ?_⟩
    intro companion found
    exact Class.isCompanion_of_mutablePath found
  · obtain ⟨⟨route, c⟩, member, reader⟩ := List.mem_flatMap.mp reader
    obtain ⟨f, _, rfl⟩ := List.mem_map.mp reader
    exact ⟨⟨c, member, rfl⟩, .field f⟩

theorem writes_of_writer (writer : i ∈ l.writers namer) : i.Within l ∧ i.member.Writes := by
  rcases List.mem_append.mp writer with writer | writer
  · obtain ⟨⟨route, c⟩, member, writer⟩ := List.mem_flatMap.mp writer
    obtain ⟨m, _, made⟩ := List.mem_filterMap.mp writer
    obtain ⟨property, writes, rfl⟩ := Option.map_eq_some_iff.mp made
    exact ⟨⟨c, member, rfl⟩, .setter (Method.isSetter_of_writtenProperty? writes)⟩
  · obtain ⟨⟨route, c⟩, member, writer⟩ := List.mem_flatMap.mp writer
    obtain ⟨f, fMember, rfl⟩ := List.mem_map.mp writer
    rw [List.mem_filter, Bool.and_eq_true, Bool.not_eq_true'] at fMember
    exact ⟨⟨c, member, rfl⟩, .field fMember.2.2⟩

end Lineage

theorem Ty.argument_error {t : Ty} {nullable : Bool} {v : Option Obj} {e : InvokeError}
    (refused : t.argument nullable v = .error e) :
    e = .nullArgument t.slotName ∨ ∃ o, v = some o ∧ e = .incompatibleArgument t.slotName o.typeName := by
  cases v with
  | none =>
    cases nullable <;> cases refused
    exact .inl rfl
  | some o =>
    refine .inr ⟨o, rfl, ?_⟩
    by_cases accepts : t.accepts o <;> cases nullable <;>
      simp only [argument, optional, required, convert, accepts, if_true, if_false, Except.map,
        Bool.false_eq_true, reduceCtorEq, Except.error.injEq] at refused <;> exact refused.symm

namespace Invoker

structure Finds (i : Invoker) (o owner : Obj) : Prop where
  followed : Upcast.follow i.route o = .ok owner
  found : o.at? (Upcast.place i.route) = some owner
  accepted : i.target.accepts owner = true

variable {i : Invoker} {o owner : Obj}

theorem Finds.check (finds : i.Finds o owner) : i.target.check owner = .ok () := by
  rw [Target.check, if_pos finds.accepted]

theorem readMember_ok (reads : i.member.Reads) (accepted : i.target.check owner = .ok ()) :
    ∃ v, i.readMember owner = .ok v := by
  unfold readMember
  generalize i.member = member at reads
  cases reads with
  | field f => exact ⟨_, by simp only [Field.read, accepted]; rfl⟩
  | @getter m path isGetter =>
    unfold Method.isGetter at isGetter
    split at isGetter
    next read body => exact ⟨_, by simp only [Method.callGet, body, accepted]; rfl⟩
    · cases isGetter

theorem borrowMember_ok (reads : i.member.Reads) (accepted : i.target.check owner = .ok ())
    (can : i.canBorrow = true) : ∃ place owner', i.borrowMember owner = .ok place owner' := by
  unfold borrowMember
  unfold canBorrow at can
  generalize i.member = member at reads can
  have field (f : Field) : ∃ place owner', f.borrow i.target owner = .ok place owner' := by
    simp only [Field.borrow, Edit.bind_apply, Edit.get_apply, accepted, Edit.ofExcept_ok_apply,
      Edit.pure_apply]
    exact ⟨_, _, rfl⟩
  cases reads with
  | field f => exact field f
  | @getter m path _ companions =>
    cases path with
    | field f => exact field f
    | none => cases can
    | companion c =>
      have isCompanion := companions c rfl
      unfold Method.isCompanion at isCompanion
      split at isCompanion
      next borrow body =>
        simp only [Method.callBorrow, body, Edit.bind_apply, Edit.get_apply, accepted,
          Edit.ofExcept_ok_apply, Edit.set_apply, Edit.pure_apply]
        exact ⟨_, _, rfl⟩
      · cases isCompanion

theorem borrowMember_error (cannot : i.canBorrow = false) (owner : Obj) :
    i.borrowMember owner = .error (.noMutableAccess i.name) owner := by
  unfold canBorrow at cannot
  split at cannot
  next m member => simp only [borrowMember, name, member, Edit.throw_apply]
  · cases cannot

theorem writeMember_cases (writes : i.member.Writes) (accepted : i.target.check owner = .ok ())
    (v : Option Obj) :
    match i.valueType.argument i.nullable v with
    | .ok _ => ∃ owner', i.writeMember v owner = .ok () owner'
    | .error e => i.writeMember v owner = .error e owner := by
  unfold writeMember valueType nullable
  generalize i.member = member at writes
  cases writes with
  | @field f writable =>
    simp only [Field.write, writable, Bool.false_eq_true, if_false, Edit.bind_apply, Edit.get_apply]
    cases f.ty.argument f.nullable v with
    | error e => rfl
    | ok w =>
      simp only [Edit.ofExcept_ok_apply, accepted]
      cases owner <;> exact ⟨_, rfl⟩
  | @setter m path isSetter =>
    unfold Method.isSetter at isSetter
    split at isSetter
    next write body =>
      simp only [Method.callSet, body, Edit.bind_apply, Edit.get_apply]
      cases m.ty.argument m.nullable v with
      | error e => rfl
      | ok w =>
        simp only [Edit.ofExcept_ok_apply, accepted, Edit.set_apply]
        exact ⟨_, rfl⟩
    · cases isSetter

theorem read_ok (finds : i.Finds o owner) (reads : i.member.Reads) : ∃ v, i.read o = .ok v := by
  obtain ⟨v, done⟩ := readMember_ok reads finds.check
  refine ⟨v, ?_⟩
  simp only [read, finds.followed, bind, Except.bind, done, mapError_ok]

theorem borrow_ok (finds : i.Finds o owner) (reads : i.member.Reads) (can : i.canBorrow = true) :
    ∃ place o', i.borrow o = .ok place o' := by
  obtain ⟨place, owner', done⟩ := borrowMember_ok reads finds.check can
  refine ⟨place.map (Upcast.place i.route ++ ·), o.replaceAt (Upcast.place i.route) owner', ?_⟩
  simp only [borrow, onOwner, Edit.bind_apply, Edit.get_apply, Edit.mapError_apply, finds.followed,
    Edit.ofExcept_ok_apply, Edit.inside_apply, done, Edit.pure_apply]

theorem borrow_error (finds : i.Finds o owner) (cannot : i.canBorrow = false) :
    i.borrow o = .error (i.failed .borrow o.typeName (.noMutableAccess i.name)) o := by
  simp only [borrow, onOwner, Edit.bind_apply, Edit.get_apply, Edit.mapError_apply, finds.followed,
    Edit.ofExcept_ok_apply, Edit.inside_apply, borrowMember_error cannot,
    Obj.replaceAt_at? finds.found]

theorem write_cases (finds : i.Finds o owner) (writes : i.member.Writes) (v : Option Obj) :
    match i.valueType.argument i.nullable v with
    | .ok _ => ∃ o', i.write v o = .ok () o'
    | .error e => i.write v o = .error (i.failed .set o.typeName e) o := by
  have member := writeMember_cases writes finds.check v
  simp only [write, onOwner, Edit.bind_apply, Edit.get_apply, Edit.mapError_apply, finds.followed,
    Edit.ofExcept_ok_apply, Edit.inside_apply]
  cases accepted : i.valueType.argument i.nullable v with
  | ok w =>
    rw [accepted] at member
    obtain ⟨owner', done⟩ := member
    simp only [done]
    exact ⟨_, rfl⟩
  | error e =>
    rw [accepted] at member
    simp only [show i.writeMember v owner = .error e owner from member,
      Obj.replaceAt_at? finds.found]

end Invoker

/-- The lineage of every bean type fits the layouts. -/
def Schema.WellEmbedded (s : Schema) : Prop :=
  ∀ type bean, s.bean? type = some bean → s.Embeds type bean.lineage.own bean.lineage.parents

namespace Schema

variable {s : Schema} {o : Obj} {l : Lineage} {i : Invoker}

/-- From a well-typed object every route of its lineage leads to an object of the class it is for, with
a slot for each of the fields of the class. -/
theorem WellEmbedded.owner (embedded : s.WellEmbedded) (typed : s.WellTyped o)
    (lineage : s.lineage? o.ty = some l) {entry : List Upcast × Class} (member : entry ∈ l.classes) :
    ∃ owner, Upcast.follow entry.1 o = .ok owner ∧ o.at? (Upcast.place entry.1) = some owner ∧
      entry.2.target.accepts owner = true ∧
      ∀ f ∈ entry.2.fields, s.slotType? owner (.field f.slot) = some f.ty := by
  -- A container is itself the object that the shared class is for.
  have container (same : l = .single .collection) (accepts : Target.container.accepts o = true) :
      ∃ owner, Upcast.follow entry.1 o = .ok owner ∧ o.at? (Upcast.place entry.1) = some owner ∧
        entry.2.target.accepts owner = true ∧
        ∀ f ∈ entry.2.fields, s.slotType? owner (.field f.slot) = some f.ty := by
    subst same
    cases List.mem_singleton.mp member
    exact ⟨o, rfl, rfl, accepts, List.forall_mem_nil _⟩
  cases o with
  | scalar => cases lineage
  | list => exact container (Option.some.inj lineage).symm rfl
  | array => exact container (Option.some.inj lineage).symm rfl
  | map => exact container (Option.some.inj lineage).symm rfl
  | set => exact container (Option.some.inj lineage).symm rfl
  | bean type fields =>
    obtain ⟨bean, beanFound, rfl⟩ := Option.map_eq_some_iff.mp lineage
    obtain ⟨steps, owner, type', route, followed, placed, same, fits⟩ :=
      (embedded type bean beanFound).follow typed rfl member
    rw [List.nil_append] at route
    rw [route]
    refine ⟨owner, followed, placed, ?_, fun f fMember => fits.slotType? fMember same⟩
    obtain ⟨fields', rfl⟩ := bean_of_ty same
    rw [fits.target]
    exact beq_self_eq_true type'

theorem WellEmbedded.finds (embedded : s.WellEmbedded) (typed : s.WellTyped o)
    (lineage : s.lineage? o.ty = some l) (within : i.Within l) : ∃ owner, i.Finds o owner := by
  obtain ⟨c, member, target⟩ := within
  obtain ⟨owner, followed, placed, accepts, _⟩ := embedded.owner typed lineage member
  exact ⟨owner, followed, placed, by rw [target]; exact accepts⟩

end Schema

/-- The invokers that the descriptor of a well-typed object binds are never called on another object,
in another role or against a read-only field. A read succeeds. A borrow fails exactly where the check
before it does, with the same error. A write fails only for its argument, and changes nothing then. -/
theorem Descriptor.invokers_apply {s : Schema} {o : Obj} (embedded : s.WellEmbedded)
    (typed : s.WellTyped o) (namer : PropertyNamer) :
    (∀ i ∈ (build namer o.ty (s.lineage? o.ty)).getters,
      (∃ v, i.read o = .ok v) ∧
      (i.canBorrow = true →
        i.ensureBorrowable o.typeName = .ok () ∧ ∃ place o', i.borrow o = .ok place o') ∧
      (i.canBorrow = false → ∃ e, e = i.failed .borrow o.typeName (.noMutableAccess i.name) ∧
        i.ensureBorrowable o.typeName = .error e ∧ i.borrow o = .error e o)) ∧
    ∀ i ∈ (build namer o.ty (s.lineage? o.ty)).setters, ∀ v,
      (∃ o', i.write v o = .ok () o') ∨
      ∃ e, i.write v o = .error (i.failed .set o.typeName e) o ∧
        (e = .nullArgument i.valueType.slotName ∨
          ∃ given, v = some given ∧ e = .incompatibleArgument i.valueType.slotName given.typeName) := by
  cases lineage : s.lineage? o.ty with
  | none =>
    constructor
    · intro i member
      cases member
    · intro i member
      cases member
  | some l =>
    -- Every invoker is for a class of the lineage, and its route ends at an object of that class.
    constructor
    · intro i member
      obtain ⟨within, reads⟩ := Lineage.reads_of_reader (mem_of_mem_firstOfEach member)
      obtain ⟨owner, finds⟩ := embedded.finds typed lineage within
      refine ⟨Invoker.read_ok finds reads, ?_, ?_⟩
      · intro can
        exact ⟨by rw [Invoker.ensureBorrowable, if_pos can], Invoker.borrow_ok finds reads can⟩
      · intro cannot
        refine ⟨_, rfl, ?_, Invoker.borrow_error finds cannot⟩
        rw [Invoker.ensureBorrowable, cannot]
        rfl
    · intro i member v
      obtain ⟨within, writes⟩ := Lineage.writes_of_writer (mem_of_mem_firstOfEach member)
      obtain ⟨owner, finds⟩ := embedded.finds typed lineage within
      have cases := Invoker.write_cases finds writes v
      cases accepted : i.valueType.argument i.nullable v with
      | ok w =>
        rw [accepted] at cases
        exact .inl cases
      | error e =>
        rw [accepted] at cases
        exact .inr ⟨e, cases, Ty.argument_error accepted⟩

namespace Sample

open SlotDecl (always maybe)

def tillDecl : BeanDecl :=
  ⟨"fx::Till", "Till", [(maybe "site" (.bean "fx::Home")).asHidden, always "coins" (.list .vec (.int .u8))],
    true, false, false⟩

def siteOf (o : Obj) : Option Obj := o.part? (.field "site")

def getHome : Method := ⟨"get_home", .bean "fx::Home", true, .getter fun o => (siteOf o).map .shared⟩

def getHomeMut : Method :=
  ⟨"get_home_mut", .bean "fx::Home", true,
    .companion fun o => (o, (siteOf o).map fun _ => [.field "site"])⟩

def setHome : Method :=
  ⟨"set_home", .bean "fx::Home", true, .setter fun o v => o.put (.field "site") v⟩

def isEmpty : Method :=
  ⟨"is_empty", .bool, false, .getter fun o =>
    (o.part? (.field "coins")).map fun coins => .detached (.bool (Class.isEmptyContainer coins))⟩

def tillMethods : List Method := [getHome, getHomeMut, setHome, isEmpty]

def kioskDecl : BeanDecl :=
  ⟨"fx::Kiosk", "Kiosk", [(always "till" (.bean "fx::Till")).asParent, always "label" .str], true, false,
    false⟩

def till (coins : List Obj) : Obj :=
  .bean "fx::Till" [("site", none), ("coins", some (.list .vec (.int .u8) coins))]

def kiosk (label : String) (coins : List Obj) : Obj :=
  .bean "fx::Kiosk" [("till", some (till coins)), ("label", some (.str label))]

def tillType : BeanType :=
  ⟨tillDecl.layout, .single (tillDecl.toClass tillMethods []), some (till []), none⟩

def kioskType : BeanType :=
  ⟨kioskDecl.layout, ⟨kioskDecl.toClass [] [], [⟨"till", tillDecl.toClass tillMethods []⟩]⟩,
    some (kiosk "" []), none⟩

def market : Schema where
  bean? type :=
    if type = "fx::Home" then some homeType
    else if type = "fx::Till" then some tillType
    else if type = "fx::Kiosk" then some kioskType
    else none

theorem market_cases {type : String} {bean : BeanType} (found : market.bean? type = some bean) :
    type = "fx::Home" ∧ bean = homeType ∨ type = "fx::Till" ∧ bean = tillType ∨
      type = "fx::Kiosk" ∧ bean = kioskType := by
  simp only [market] at found
  split at found
  next same => cases found; exact .inl ⟨same, rfl⟩
  · split at found
    next same => cases found; exact .inr (.inl ⟨same, rfl⟩)
    · split at found
      next same => cases found; exact .inr (.inr ⟨same, rfl⟩)
      · cases found

theorem market_wellEmbedded : market.WellEmbedded := by
  intro type bean found
  have single : market.Embeds "fx::Till" (tillDecl.toClass tillMethods []) [] :=
    .last (tillDecl.fits rfl (by decide) _ _)
  rcases market_cases found with ⟨rfl, rfl⟩ | ⟨rfl, rfl⟩ | ⟨rfl, rfl⟩
  · exact .last (homeDecl.fits rfl (by decide) _ _)
  · exact single
  · have declared : market.layouts "fx::Kiosk" = some kioskDecl.layout := rfl
    have apart : ∀ f ∈ (kioskDecl.toClass [] []).fields, f.slot ≠ "till" := by
      intro f member
      cases List.mem_singleton.mp member
      decide
    exact .parent (kioskDecl.fits rfl (by decide) _ _) declared rfl rfl rfl apart single

theorem wellTyped_till : market.WellTyped (till []) := by
  have declared : market.layouts "fx::Till" = some tillDecl.layout := rfl
  refine .of_slots declared rfl ?_ ?_
  · intro slot member
    simp only [tillDecl, BeanDecl.layout, List.map_cons, List.map_nil, List.mem_cons,
      List.not_mem_nil, or_false] at member
    rcases member with rfl | rfl
    · rfl
    · exact Ty.accepts_iff.mp rfl
  · have coins : market.WellTyped (.list .vec (.int .u8) []) := .list (by simp) (by simp)
    simpa using coins

theorem wellTyped_kiosk (label : String) : market.WellTyped (kiosk label []) := by
  have declared : market.layouts "fx::Kiosk" = some kioskDecl.layout := rfl
  refine .of_slots declared rfl ?_ ?_
  · intro slot member
    simp only [kioskDecl, BeanDecl.layout, List.map_cons, List.map_nil, List.mem_cons,
      List.not_mem_nil, or_false] at member
    rcases member with rfl | rfl
    · exact Ty.accepts_iff.mp rfl
    · exact Ty.accepts_iff.mp rfl
  · have text : market.WellTyped (.str label) := .scalar trivial
    simpa using ⟨wellTyped_till, text⟩

end Sample

open Sample in
/-- A kiosk lends the home of its till, and refuses to lend whether the till is empty. -/
theorem Descriptor.invokers_apply_kiosk :
    let o := kiosk "A" []
    let d := build .bean o.ty (market.lineage? o.ty)
    market.WellEmbedded ∧ market.WellTyped o ∧
    (∃ i, d.getter? "home" = some i ∧ i.inherited = true ∧ (∃ v, i.read o = .ok v) ∧
      ∃ place o', i.borrow o = .ok place o') ∧
    (∃ i, d.getter? "empty" = some i ∧ ∃ e, i.ensureBorrowable o.typeName = .error e ∧
      i.borrow o = .error e o) ∧
    ∃ i, d.setter? "home" = some i ∧ ∀ v, (∃ o', i.write v o = .ok () o') ∨
      ∃ e, i.write v o = .error (i.failed .set o.typeName e) o ∧
        (e = .nullArgument i.valueType.slotName ∨
          ∃ given, v = some given ∧
            e = .incompatibleArgument i.valueType.slotName given.typeName) := by
  intro o d
  have typed : market.WellTyped o := wellTyped_kiosk "A"
  let route : List Upcast := [⟨.bean "fx::Kiosk", "till", "Till"⟩]
  have home : d.getter? "home" =
      some ⟨"home", route, .bean "fx::Till", .method getHome (.companion getHomeMut)⟩ := rfl
  have empty : d.getter? "empty" =
      some ⟨"empty", route, .bean "fx::Till", .method isEmpty .none⟩ := rfl
  have set : d.setter? "home" =
      some ⟨"home", route, .bean "fx::Till", .method setHome .none⟩ := rfl
  obtain ⟨getters, setters⟩ := Descriptor.invokers_apply market_wellEmbedded typed .bean
  refine ⟨market_wellEmbedded, typed, ⟨_, home, rfl, ?_⟩, ⟨_, empty, ?_⟩, _, set, ?_⟩
  · obtain ⟨read, lent, _⟩ := getters _ (List.mem_of_find?_eq_some home)
    exact ⟨read, (lent rfl).2⟩
  · obtain ⟨_, _, refused⟩ := getters _ (List.mem_of_find?_eq_some empty)
    obtain ⟨e, _, checked, borrowed⟩ := refused rfl
    exact ⟨e, checked, borrowed⟩
  · exact setters _ (List.mem_of_find?_eq_some set)

end ObjectGraph
