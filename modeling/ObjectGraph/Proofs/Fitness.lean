import ObjectGraph.Factory
import ObjectGraph.Proofs.Edit
import ObjectGraph.Proofs.Typing

/-! What the usual factory makes fits the slots that it is made for.

It makes an object of the concrete type that stands for the type it is asked for, and every slot that is
declared with that type takes the object. Sorted sets in the abstract are an exception: one is made, but no
slot is declared for them.
-/

set_option autoImplicit false
namespace ObjectGraph

/-! Errors that refuse a value -/

def InvokeError.refusesValue : InvokeError → Bool
  | .incompatibleArgument _ _ => true
  | .nullArgument _ => true
  | _ => false

def ElementError.refusesValue : ElementError → Bool
  | .incompatible _ _ => true
  | _ => false

def InstantiateError.refusesValue : InstantiateError → Bool
  | .constructor cause => cause.refusesValue
  | _ => false

/-- The error, or a cause of it at any depth, says that a value is absent or of another type. -/
def AccessError.refusesValue : AccessError → Bool
  | .propertyAccessFailed _ _ _ cause => cause.refusesValue
  | .incompatibleValue _ _ cause => cause.refusesValue
  | .instantiationFailed _ _ _ cause => cause.refusesValue
  | .creationFailed _ _ _ cause => cause.refusesValue
  | _ => false

def AccessError.NotOfValue (e : AccessError) : Prop :=
  e.refusesValue = false

def InvokeError.NotOfValue (e : InvokeError) : Prop :=
  e.refusesValue = false

/-! What is made -/

namespace Schema

/-- Default instances and constructors without parameters give objects of their own type, and those
constructors refuse no argument, since they have none. -/
structure MakesOwn (s : Schema) : Prop where
  defaults : ∀ type bean o, s.bean? type = some bean → bean.default? = some o → o.ty = .bean type
  constructs : ∀ type bean c o, s.bean? type = some bean → c ∈ bean.lineage.own.constructors →
    c.params = [] → c.build [] = .ok o → o.ty = .bean type
  unrefused : ∀ type bean c e, s.bean? type = some bean → c ∈ bean.lineage.own.constructors →
    c.params = [] → c.build [] = .error e → e.refusesValue = false

variable {s : Schema} {t : Ty} {o : Obj}

theorem instantiate_cases (s : Schema) (t : Ty) :
    (∃ type bean c, t = .bean type ∧ s.bean? type = some bean ∧ c ∈ bean.lineage.own.constructors ∧
      c.params = [] ∧ s.instantiate t = (c.build []).mapError .constructor) ∨
    (∃ o, s.default? t = some o ∧ s.instantiate t = .ok o) ∨
    s.instantiate t = .error .noDefaultConstructor := by
  unfold instantiate
  split
  next c found =>
    obtain ⟨l, lineage, constructor⟩ := Option.bind_eq_some_iff.mp found
    unfold lineage? at lineage
    split at lineage
    next type =>
      obtain ⟨bean, beanFound, rfl⟩ := Option.map_eq_some_iff.mp lineage
      have noParams : c.params = [] := by simpa using List.find?_some constructor
      have invoked : c.invoke [] = c.build [] := by
        simp [Constructor.invoke, noParams, Constructor.checkArgs, bind, Except.bind]
      exact .inl ⟨type, bean, c, rfl, beanFound, List.mem_of_find?_eq_some constructor, noParams,
        by rw [invoked]⟩
    all_goals first | cases lineage; cases constructor | cases lineage
  · split
    next o found => exact .inr (.inl ⟨o, found, rfl⟩)
    · exact .inr (.inr rfl)

namespace MakesOwn

theorem ty_of_default (own : s.MakesOwn) (found : s.default? t = some o) : o.ty = t := by
  cases t with
  | scalar type =>
    cases found
    cases type <;> rfl
  | array kind item =>
    cases kind with
    | fixed => cases found
    | slice =>
      cases found
      rfl
  | bean type =>
    obtain ⟨bean, beanFound, made⟩ := Option.bind_eq_some_iff.mp found
    exact own.defaults type bean o beanFound made
  | any => cases found
  | shaped => cases found
  | _ =>
    cases found
    rfl

theorem ty_of_instantiate (own : s.MakesOwn) (made : s.instantiate t = .ok o) : o.ty = t := by
  rcases s.instantiate_cases t with ⟨type, bean, c, rfl, beanFound, member, noParams, built⟩ |
    ⟨o', found, same⟩ | none
  · rw [built] at made
    cases result : c.build [] with
    | error e => rw [result] at made; cases made
    | ok o' =>
      rw [result] at made
      cases made
      exact own.constructs type bean c _ beanFound member noParams result
  · rw [same] at made
    cases made
    exact own.ty_of_default found
  · rw [none] at made
    cases made

theorem unrefused_of_instantiate (own : s.MakesOwn) {e : InstantiateError}
    (failed : s.instantiate t = .error e) : e.refusesValue = false := by
  rcases s.instantiate_cases t with ⟨type, bean, c, rfl, beanFound, member, noParams, built⟩ |
    ⟨o', _, same⟩ | none
  · rw [built] at failed
    cases result : c.build [] with
    | error e =>
      rw [result] at failed
      cases failed
      exact own.unrefused type bean c _ beanFound member noParams result
    | ok o' => rw [result] at failed; cases failed
  · rw [same] at failed
    cases failed
  · rw [none] at failed
    cases failed
    rfl

end MakesOwn

end Schema

/-! What slots take -/

namespace Ty

variable {t : Ty} {o : Obj}

/-- Every slot declared with the type takes the object as it is: arguments, fields, setters, parameters,
items, elements, members and entries. -/
structure SlotsTake (t : Ty) (o : Obj) : Prop where
  argument : ∀ nullable, t.argument nullable (some o) = .ok (some o)
  field : ∀ f : Field, f.ty = t → f.readonly = false → ∀ target type fields,
    target.accepts (.bean type fields) = true → f.write target (some o) (.bean type fields) =
      .ok () (.bean type (Fields.set f.slot (some o) fields))
  setter : ∀ m : Method, m.ty = t → ∀ write, m.body = .setter write → ∀ target owner,
    target.accepts owner = true → m.callSet target (some o) owner = .ok () (write owner (some o))
  parameter : ∀ p : Param, p.ty = t → ∀ params args, Constructor.checkArgs (p :: params) (some o :: args) =
    (Constructor.checkArgs params args).map (some o :: ·)
  item : ∀ l : ListView, l.item = t → l.push o = .ok { l with items := l.items ++ [o] } ∧
    ∀ i < l.items.length, l.set i o = .ok { l with items := l.items.set i o }
  element : ∀ a : ArrayView, a.item = t → ∀ i < a.items.length,
    a.set i o = .ok { a with items := a.items.set i o }
  member : ∀ v : SetView, v.item = t → v.insert o =
    .ok ({ v with members := Members.insert o v.members }, !Members.has o v.members)
  entry : ∀ m : MapView, m.value = t → ∀ key k, Key.read? m.key key = some k → m.insert key o =
    .ok ({ m with entries := Entries.insert m.kind.before k o m.entries }, Entries.get? k m.entries)

theorem element_of_accepts (accepts : t.accepts o = true) : t.element o = .ok o := by
  simp only [Ty.element, convert, accepts, if_true]

theorem argument_of_accepts (accepts : t.accepts o = true) (nullable : Bool) :
    t.argument nullable (some o) = .ok (some o) := by
  cases nullable <;> simp [Ty.argument, optional, required, convert, accepts, Except.map]

theorem slotsTake_of_accepts (accepts : t.accepts o = true) : t.SlotsTake o where
  -- All slots ask the type first, and what it accepts they store.
  argument := argument_of_accepts accepts
  field f same writable target type fields owned := by
    subst same
    simp only [Field.write, writable, Bool.false_eq_true, if_false, argument_of_accepts accepts,
      Target.check, owned, if_true, Edit.bind_apply, Edit.get_apply, Edit.ofExcept_ok_apply, Edit.set_apply]
  setter m same write body target owner owned := by
    subst same
    simp only [Method.callSet, body, argument_of_accepts accepts, Target.check, owned, if_true,
      Edit.bind_apply, Edit.get_apply, Edit.ofExcept_ok_apply, Edit.set_apply]
  parameter p same params args := by
    subst same
    rw [Constructor.checkArgs, argument_of_accepts accepts]
    cases Constructor.checkArgs params args <;> rfl
  item l same := by
    subst same
    refine ⟨by rw [ListView.push, element_of_accepts accepts]; rfl, ?_⟩
    intro i within
    rw [ListView.set, replaceItem, if_pos within, element_of_accepts accepts]
    rfl
  element a same i within := by
    subst same
    rw [ArrayView.set, replaceItem, if_pos within, element_of_accepts accepts]
    rfl
  member v same := by
    subst same
    rw [SetView.insert, element_of_accepts accepts]
    rfl
  entry m same key k read := by
    subst same
    rw [MapView.insert, read]
    simp only [element_of_accepts accepts]
    rfl

/-- What is made for an open type is accepted for it, sorted sets apart. -/
theorem accepts_of_concrete (made : o.ty = t.concrete) (declared : t ≠ .shaped .sortedSet) :
    t.accepts o = true := by
  apply accepts_iff.mpr
  have exact (same : t.concrete = t) : t.Conforms o := (made.trans same) ▸ .exact o
  cases t with
  | any => exact .any o
  | shaped shape =>
    cases shape <;> cases o <;> cases made
    · exact .list _ _ _
    · exact .map _ _ _ _
    · exact .set _ _ _
    · exact absurd rfl declared
  | _ => exact exact rfl

theorem isCollection_iff_kind (made : o.ty = t.concrete) :
    t.isCollection = true ↔ o.kind = .list ∨ o.kind = .array ∨ o.kind = .set := by
  cases t with
  | shaped shape =>
    cases shape <;> cases o <;> cases made
    all_goals simp [isCollection, Obj.kind]
  | _ =>
    cases o <;> cases made
    simp [isCollection, Obj.kind]

end Ty

end ObjectGraph
