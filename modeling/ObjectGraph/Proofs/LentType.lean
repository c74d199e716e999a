import ObjectGraph.Proofs.Place
import ObjectGraph.Proofs.ReportedType
import ObjectGraph.Proofs.Resolution

/-! The type of what a property lends to be changed.

A property that a method reads lends its value by another member of the class, which is found by its name
alone: a companion of the method, or a field of the property's own. Each has a type of its own, and it is
the type of the property unless the member that comes first by its name has another one.
-/

set_option autoImplicit false
namespace ObjectGraph

def MutablePath.valueType? : MutablePath → Option Ty
  | .companion m => some m.ty
  | .field f => some f.ty
  | .none => Option.none

/-- What the class lends for its getter by name has another type than the getter. -/
inductive Class.LendsOther (c : Class) (getter : Method) (property : String) : Prop where
  | companion {m : Method} : FirstIn (Method.Accompanies getter.name) c.methods m → m.ty ≠ getter.ty →
    LendsOther c getter property
  | field {f : Field} : (∀ m ∈ c.methods, ¬ m.Accompanies getter.name) →
    FirstIn (fun f => f.name = property) c.fields f → f.ty ≠ getter.ty → LendsOther c getter property

namespace Class

variable {c : Class} {getter : Method} {property : String} {path other : MutablePath}

theorem Lends.unique (lends : c.Lends getter.name property path)
    (lendsOther : c.Lends getter.name property other) : path = other :=
  (mutablePath_eq_iff.mpr lends).symm.trans (mutablePath_eq_iff.mpr lendsOther)

/-- A path that lends anything has the getter's type unless the class lends something else by the name. -/
theorem Lends.valueType_eq_iff {t : Ty} (lends : c.Lends getter.name property path)
    (typed : path.valueType? = some t) : t = getter.ty ↔ ¬ c.LendsOther getter property := by
  constructor
  · rintro rfl lendsOther
    cases lendsOther with
    | companion first different =>
      cases lends.unique (.companion first)
      exact different (Option.some.inj typed)
    | field alone first different =>
      cases lends.unique (.field alone first)
      exact different (Option.some.inj typed)
  · intro same
    by_contra different
    cases lends with
    | companion first => cases typed; exact same (.companion first different)
    | field alone first => cases typed; exact same (.field alone first different)
    | none => cases typed

end Class

namespace Schema

variable {s : Schema} {o : Obj} {l : Lineage}

def Lets (s : Schema) (c : Class) : Prop :=
  ∀ m ∈ c.methods, ∀ borrow, m.body = .companion borrow → ∀ o o' place, s.WellTyped o →
    c.target.accepts o = true → borrow o = (o', some place) →
    ∃ part, o'.at? place = some part ∧ s.OfType m.ty part

/-- All companions lend what they declare. -/
def LendsDeclared (s : Schema) : Prop :=
  ∀ type bean, s.bean? type = some bean → ∀ entry ∈ bean.lineage.classes, s.Lets entry.2

theorem LendsDeclared.lets (lends : s.LendsDeclared) (lineage : s.lineage? o.ty = some l)
    {entry : List Upcast × Class} (member : entry ∈ l.classes) : s.Lets entry.2 := by
  have container (same : l = .single .collection) : s.Lets entry.2 := by
    subst same
    cases List.mem_singleton.mp member
    intro m member borrow body
    cases List.mem_singleton.mp member
    cases body
  cases o with
  | scalar => cases lineage
  | bean type fields =>
    obtain ⟨bean, beanFound, rfl⟩ := Option.map_eq_some_iff.mp lineage
    exact lends type bean beanFound entry member
  | _ => exact container (Option.some.inj lineage).symm

end Schema

namespace Invoker

variable {i : Invoker} {o o' owner : Obj} {place : Place}

theorem borrow_eq_ok (finds : i.Finds o owner) (borrowed : i.borrow o = .ok (some place) o') :
    ∃ below owner', i.borrowMember owner = .ok (some below) owner' ∧ o'.at? place = owner'.at? below := by
  simp only [borrow, onOwner, Edit.bind_apply, Edit.get_apply, Edit.mapError_apply, finds.followed,
    Edit.ofExcept_ok_apply, Edit.inside_apply] at borrowed
  cases lent : i.borrowMember owner with
  | error e owner' =>
    rw [lent] at borrowed
    cases borrowed
  | ok below owner' =>
    rw [lent] at borrowed
    cases below with
    | none => cases borrowed
    | some below =>
      cases borrowed
      exact ⟨below, owner', rfl, Obj.at?_replaceAt_append owner' finds.found below⟩

end Invoker

namespace Class

variable {c : Class} {getter : Method} {property : String} {path : MutablePath} {s : Schema}
  {owner owner' : Obj} {below : Place} {i : Invoker}

theorem Lends.ofType (lends : c.Lends getter.name property path) (lets : s.Lets c)
    (slots : ∀ f ∈ c.fields, s.slotType? owner (.field f.slot) = some f.ty) (typed : s.WellTyped owner)
    (accepts : c.target.accepts owner = true) (target : i.target = c.target)
    (member : i.member = .method getter path)
    (borrowed : i.borrowMember owner = .ok (some below) owner') :
    ∃ t part, path.valueType? = some t ∧ owner'.at? below = some part ∧ s.OfType t part := by
  have check : c.target.check owner = .ok () := by rw [Target.check, if_pos accepts]
  rw [Invoker.borrowMember, member, target] at borrowed
  cases lends with
  | @companion m first =>
    cases body : m.body with
    | companion borrow =>
      simp only [Method.callBorrow, body, Edit.bind_apply, Edit.get_apply, check,
        Edit.ofExcept_ok_apply, Edit.set_apply, Edit.pure_apply, EStateM.Result.ok.injEq] at borrowed
      obtain ⟨part, held, ofType⟩ := lets m first.mem borrow body owner owner' below typed accepts
        (Prod.ext borrowed.2 borrowed.1)
      exact ⟨m.ty, part, rfl, held, ofType⟩
    | getter | setter =>
      simp only [Method.callBorrow, body, Edit.throw_apply] at borrowed
      cases borrowed
  | @field f alone first =>
    simp only [Field.borrow, Edit.bind_apply, Edit.get_apply, check, Edit.ofExcept_ok_apply,
      Edit.pure_apply, EStateM.Result.ok.injEq, Option.map_eq_some_iff] at borrowed
    obtain ⟨⟨part, held, rfl⟩, rfl⟩ := borrowed
    exact ⟨f.ty, part, rfl, (Obj.at?_singleton _ _).trans held, typed.ofType (slots f first.mem) held⟩
  | none => cases borrowed

end Class

/-- A property that a method reads lends by a path of its own type unless the class of the method lends
something else by the name. Where methods give and lend what they declare, what is read has the type of the
property, and what is lent the type of the path. -/
theorem Descriptor.lends_own_type {namer : PropertyNamer} {ty : Ty} {l : Lineage} {property : String}
    {i : Invoker} {m : Method} {path : MutablePath}
    (bound : (build namer ty (some l)).getter? property = some i) (method : i.member = .method m path)
    (can : i.canBorrow = true) :
    ∃ depth c t, l.First Class.methods (Method.Gets namer property) depth c m ∧
      path.valueType? = some t ∧ (t = i.valueType ↔ ¬ c.LendsOther m property) ∧
      ∀ s : Schema, s.WellEmbedded → s.ReturnsDeclared → s.LendsDeclared →
        ∀ o, s.WellTyped o → s.lineage? o.ty = some l →
          (∀ v, i.read o = .ok (some v) → s.OfType i.valueType v.obj) ∧
          ∀ place o', i.borrow o = .ok (some place) o' →
            ∃ part, o'.at? place = some part ∧ s.OfType t part := by
  have read := (resolves namer ty l property i).1.mp bound
  rw [getter?_build] at bound
  cases read with
  | field _ _ _ => cases method
  | @method depth c m' path' first lends =>
    cases method
    have declared : ∃ t, path.valueType? = some t := by
      cases path with
      | companion companion => exact ⟨_, rfl⟩
      | field f => exact ⟨_, rfl⟩
      | none => cases can
    obtain ⟨t, declared⟩ := declared
    refine ⟨depth, c, t, first, declared, lends.valueType_eq_iff declared, ?_⟩
    intro s embedded returns lent o typed lineage
    refine ⟨fun v given => ?_, fun place o' borrowed => ?_⟩
    · exact returns.ofType_read embedded typed lineage (List.mem_of_find?_eq_some bound) given
    -- The class of the getter is the one that the route leads to, so its members lend of the owner.
    · have stands : (l.route depth, c) ∈ l.classes := by
        refine List.mem_of_getElem? (i := depth) ?_
        rw [Lineage.getElem?_classes, first.stands, Option.map_some]
      obtain ⟨owner, followed, placed, accepts, slots⟩ := embedded.owner typed lineage stands
      obtain ⟨below, owner', memberLends, same⟩ :=
        Invoker.borrow_eq_ok ⟨followed, placed, accepts⟩ borrowed
      obtain ⟨t', part, declared', held, ofType⟩ := lends.ofType (lent.lets lineage stands) slots
        (typed.at? placed) accepts rfl rfl memberLends
      rw [declared, Option.some.injEq] at declared'
      subst declared'
      exact ⟨part, same.trans held, ofType⟩

open Sample in
/-- What is fetched of the shapes is a number, and what is lent under the name is an address. -/
theorem Descriptor.lends_other_type : ∃ l i m companion o v place o' part,
    schema.lineage? (bean "Shapes") = some l ∧ schema.default? (bean "Shapes") = some o ∧
    (build fluent (bean "Shapes") (some l)).getter? "fetch" = some i ∧
    i.member = .method m (.companion companion) ∧ i.canBorrow = true ∧
    i.valueType = .int .u8 ∧ companion.ty = bean "Address" ∧ bean "Address" ≠ .int .u8 ∧
    i.read o = .ok (some v) ∧ v.obj.ty = .int .u8 ∧
    i.borrow o = .ok (some place) o' ∧ o'.at? place = some part ∧ part.ty = bean "Address" :=
  ⟨_, _, _, _, _, _, _, _, _, rfl, rfl, rfl, rfl, rfl, rfl, rfl, nofun, rfl, rfl, rfl, rfl, rfl⟩

namespace Sample

theorem till_lets : market.Lets (tillDecl.toClass tillMethods []) := by
  intro m member borrow body o o' place typed accepts lent
  cases o with
  | bean type fields =>
    obtain rfl : "fx::Till" = type := beq_iff_eq.1 accepts
    simp only [BeanDecl.toClass, tillMethods, List.mem_cons, List.not_mem_nil, or_false] at member
    rcases member with rfl | rfl | rfl | rfl <;> cases body
    obtain ⟨rfl, site⟩ := Prod.mk.inj lent
    obtain ⟨part, held, rfl⟩ := Option.map_eq_some_iff.1 site
    have declared : market.slotType? (.bean "fx::Till" fields) (.field "site") =
        some (.bean "fx::Home") := rfl
    exact ⟨part, (Obj.at?_singleton _ _).trans held, typed.ofType declared held⟩
  | _ => cases accepts

theorem market_lendsDeclared : market.LendsDeclared := by
  intro type bean found entry member
  rcases market_cases found with ⟨rfl, rfl⟩ | ⟨rfl, rfl⟩ | ⟨rfl, rfl⟩
  · cases List.mem_singleton.1 member
    exact nofun
  · cases List.mem_singleton.1 member
    exact till_lets
  · rcases List.mem_cons.1 member with rfl | member
    · exact nofun
    · cases List.mem_singleton.1 member
      exact till_lets

def settledTill : Obj :=
  (till []).put (.field "site") (some blankHome)

theorem market_blankHome : market.WellTyped blankHome := by
  have zip : market.WellTyped (.int .u32 0) := by
    have contained : IntType.contains .u32 0 = true := by decide
    exact .scalar contained
  have declared : market.layouts "fx::Home" = some homeDecl.layout := rfl
  refine .of_slots declared rfl ?_ ?_
  · intro slot member
    simp only [homeDecl, BeanDecl.layout, List.map_cons, List.map_nil, List.mem_cons,
      List.not_mem_nil, or_false] at member
    rcases member with rfl | rfl
    · rfl
    · exact Ty.accepts_iff.mp rfl
  · simpa using zip

theorem wellTyped_settledTill : market.WellTyped settledTill := by
  refine wellTyped_till.put ⟨tillDecl.layout, _, rfl, rfl, Ty.accepts_iff.mp rfl⟩ fun o same => ?_
  cases same
  exact market_blankHome

end Sample

open Sample in
/-- A till that has a home gives it, and lends it under the same name. -/
theorem Descriptor.lends_own_type_till : ∃ i v place o' part,
    (build .bean (.bean "fx::Till") (some tillType.lineage)).getter? "home" = some i ∧
    i.member = .method getHome (.companion getHomeMut) ∧ i.canBorrow = true ∧
    i.read settledTill = .ok (some v) ∧ market.OfType i.valueType v.obj ∧
    i.borrow settledTill = .ok (some place) o' ∧ o'.at? place = some part ∧
    market.OfType i.valueType part := by
  have bound : (build .bean (.bean "fx::Till") (some tillType.lineage)).getter? "home" =
      some ⟨"home", [], .bean "fx::Till", .method getHome (.companion getHomeMut)⟩ := rfl
  obtain ⟨_, _, t, _, declared, _, run⟩ := lends_own_type bound rfl rfl
  cases declared
  obtain ⟨read, lent⟩ := run market market_wellEmbedded market_returnsDeclared market_lendsDeclared
    settledTill wellTyped_settledTill rfl
  obtain ⟨part, held, ofType⟩ := lent [.field "site"] settledTill rfl
  exact ⟨_, _, _, _, part, bound, rfl, rfl, rfl, read _ rfl, rfl, held, ofType⟩

end ObjectGraph
