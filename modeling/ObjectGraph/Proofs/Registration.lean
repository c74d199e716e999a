import ObjectGraph.Proofs.Edit
import ObjectGraph.Proofs.Standard

/-! Registering an adapter that adds elements.

The registered adapter answers access by name as the one does that is chosen for want of another.
Adapters are chosen at every object on the way, so a walk meets the one or the other wherever it
comes upon a list or a set, and takes the same way to the same end. Only adding elements is new.
-/

set_option autoImplicit false
namespace ObjectGraph

def Context.adapting (ctx : Context) (f : AdapterFactory) : Context :=
  { ctx with adapters := f }

namespace Adapter

def access : Adapter → Adapter
  | .collection => .bean
  | a => a

structure Alike (ctx ctx' : Context) (a b : Adapter) : Prop where
  read : ∀ o s, a.read ctx o s = b.read ctx' o s
  borrow : ∀ s, a.borrow ctx s = b.borrow ctx' s
  write : ∀ s v, a.write ctx s v = b.write ctx' s v
  instantiate : ∀ s, a.instantiate ctx s = b.instantiate ctx' s
  getterNames : ∀ o, a.getterNames ctx o = b.getterNames ctx' o
  setterNames : ∀ o, a.setterNames ctx o = b.setterNames ctx' o
  getterType? : ∀ o name, a.getterType? ctx o name = b.getterType? ctx' o name
  setterType? : ∀ o name, a.setterType? ctx o name = b.setterType? ctx' o name
  hasGetter : ∀ o name, a.hasGetter ctx o name = b.hasGetter ctx' o name
  hasSetter : ∀ o name, a.hasSetter ctx o name = b.hasSetter ctx' o name

theorem alike_of_access {a b : Adapter} (same : a.access = b.access) (ctx : Context)
    (f : AdapterFactory) : Alike ctx (ctx.adapting f) a b := by
  cases a <;> cases b <;> cases same <;> constructor <;> intros <;> rfl

end Adapter

namespace Context

variable {ctx : Context} {f : AdapterFactory}
variable (usual : ctx.Usual) (usual' : (ctx.adapting f).Usual)
include usual usual'

/-- Both contexts have an adapter for every object, and the two answer access by name alike. -/
theorem alike_adapters (o : Obj) : ∃ a b, ctx.adapter o = .ok a ∧
    (ctx.adapting f).adapter o = .ok b ∧ Adapter.Alike ctx (ctx.adapting f) a b := by
  cases own : ctx.schema.adapter? o with
  | some a =>
    refine ⟨a, a, ?_, ?_, Adapter.alike_of_access rfl ctx f⟩
    · simp only [adapter, resolve, own, Except.map]
    · simp only [adapter, resolve, adapting, own, Except.map]
  | none =>
    obtain ⟨a, chosen, kind⟩ := usual.adapter own
    obtain ⟨b, chosen', kind'⟩ := usual'.adapter own
    refine ⟨a, b, chosen, chosen', Adapter.alike_of_access ?_ ctx f⟩
    rcases kind with ⟨isMap, rfl⟩ | ⟨notMap, rfl | rfl⟩ <;>
      rcases kind' with ⟨isMap', rfl⟩ | ⟨notMap', rfl | rfl⟩ <;> first | rfl | simp_all

theorem readFrom_adapting (o : Obj) (s : Segment) (rest : List Segment) :
    ctx.readFrom o s rest = (ctx.adapting f).readFrom o s rest := by
  induction rest generalizing o s with
  | nil =>
    obtain ⟨a, b, chosen, chosen', alike⟩ := alike_adapters usual usual' o
    simp only [readFrom, chosen, chosen', bind, Except.bind, alike.read]
  | cons next rest ih =>
    obtain ⟨a, b, chosen, chosen', alike⟩ := alike_adapters usual usual' o
    simp only [readFrom, chosen, chosen', bind, Except.bind, alike.read, ih]

theorem borrowFrom_adapting (s : Segment) (rest : List Segment) :
    ctx.borrowFrom s rest = (ctx.adapting f).borrowFrom s rest := by
  induction rest generalizing s with
  | nil =>
    funext o
    obtain ⟨a, b, chosen, chosen', alike⟩ := alike_adapters usual usual' o
    simp only [borrowFrom, Edit.bind_apply, Edit.get_apply, chosen, chosen',
      Edit.ofExcept_ok_apply, alike.borrow]
  | cons next rest ih =>
    funext o
    obtain ⟨a, b, chosen, chosen', alike⟩ := alike_adapters usual usual' o
    simp only [borrowFrom, Edit.bind_apply, Edit.get_apply, chosen, chosen',
      Edit.ofExcept_ok_apply, alike.borrow, ih]

theorem step_adapting (s : Segment) (creates : Bool) :
    ctx.step s creates = (ctx.adapting f).step s creates := by
  funext o
  obtain ⟨a, b, chosen, chosen', alike⟩ := alike_adapters usual usual' o
  simp only [step, Edit.bind_apply, Edit.get_apply, chosen, chosen', Edit.ofExcept_ok_apply,
    alike.read, alike.borrow, alike.instantiate]

theorem writeFrom_adapting (v : Option Obj) (s : Segment) (rest : List Segment) :
    ctx.writeFrom v s rest = (ctx.adapting f).writeFrom v s rest := by
  induction rest generalizing s with
  | nil =>
    funext o
    obtain ⟨a, b, chosen, chosen', alike⟩ := alike_adapters usual usual' o
    simp only [writeFrom, Edit.bind_apply, Edit.get_apply, chosen, chosen',
      Edit.ofExcept_ok_apply, alike.write]
  | cons next rest ih =>
    simp only [writeFrom, step_adapting usual usual', ih]

end Context

namespace Navigator

/-- The two contexts give one answer to every access by name, and every write leaves one graph. -/
structure SameAccess (ctx ctx' : Context) (n : Navigator) : Prop where
  read : ∀ p, n.read ctx p = n.read ctx' p
  borrow : ∀ p, n.borrow ctx p = n.borrow ctx' p
  write : ∀ p v, n.write ctx p v = n.write ctx' p v
  getterNames : n.getterNames ctx = n.getterNames ctx'
  setterNames : n.setterNames ctx = n.setterNames ctx'
  getterType? : ∀ name, n.getterType? ctx name = n.getterType? ctx' name
  setterType? : ∀ name, n.setterType? ctx name = n.setterType? ctx' name
  hasGetter : ∀ name, n.hasGetter ctx name = n.hasGetter ctx' name
  hasSetter : ∀ name, n.hasSetter ctx name = n.hasSetter ctx' name

variable {ctx : Context} {f : AdapterFactory}

theorem inspect_adapting {α : Type} (usual : ctx.Usual) (usual' : (ctx.adapting f).Usual)
    (n : Navigator) (nothing : α) {ask ask' : Adapter → Obj → α}
    (same : ∀ a b o, Adapter.Alike ctx (ctx.adapting f) a b → ask a o = ask' b o) :
    n.inspect ctx nothing ask = n.inspect (ctx.adapting f) nothing ask' := by
  unfold inspect
  cases n.obj? with
  | none => rfl
  | some o =>
    obtain ⟨a, b, chosen, chosen', alike⟩ := Context.alike_adapters usual usual' o
    simp only [chosen, chosen']
    exact same a b o alike

theorem sameAccess_adapting (usual : ctx.Usual) (usual' : (ctx.adapting f).Usual) (n : Navigator) :
    SameAccess ctx (ctx.adapting f) n where
  read p := by simp only [read, Context.readPath, Context.readFrom_adapting usual usual']
  borrow p := by simp only [borrow, Context.borrowPath, Context.borrowFrom_adapting usual usual']
  write p v := by simp only [write, Context.writePath, Context.writeFrom_adapting usual usual']
  getterNames := inspect_adapting usual usual' n _ fun _ _ o alike => alike.getterNames o
  setterNames := inspect_adapting usual usual' n _ fun _ _ o alike => alike.setterNames o
  getterType? name := inspect_adapting usual usual' n _ fun _ _ o alike => alike.getterType? o name
  setterType? name := inspect_adapting usual usual' n _ fun _ _ o alike => alike.setterType? o name
  hasGetter name := inspect_adapting usual usual' n _ fun _ _ o alike => alike.hasGetter o name
  hasSetter name := inspect_adapting usual usual' n _ fun _ _ o alike => alike.hasSetter o name

/-- Registering the adapter that adds elements changes no access by name: no read, no loan, no write
and none of the names and types of an object. -/
theorem sameAccess_withCollections (s : Schema) (n : Navigator) :
    SameAccess (.standard s) (.withCollections s) n :=
  sameAccess_adapting (Context.usual_standard s) (Context.usual_withCollections s) n

example (s : Schema) : ((owned (.list .vec .str [])).add (.withCollections s) (.str "a")).1 =
    owned (.list .vec .str [.str "a"]) := rfl

section Adding
variable {s : Schema} {n : Navigator} {o : Obj}

theorem edit_withCollections {α : Type} (found : n.obj? = some o) (notList : o.kind ≠ .list)
    (notSet : o.kind ≠ .set) (operation : String) (act : Adapter → Edit AccessError α) :
    n.edit operation (do act (← Edit.ofExcept ((Context.withCollections s).adapter (← get)))) =
      n.edit operation (do act (← Edit.ofExcept ((Context.standard s).adapter (← get)))) := by
  have same : (Context.withCollections s).adapter o = (Context.standard s).adapter o := by
    have unsupported : (Context.withCollections s).adapters.supports o = false := by
      simp [Context.withCollections, AdapterRegistry.factory, AdapterRegistry.find?,
        AdapterRegistry.collections, notList, notSet]
    simp only [Context.adapter, Context.resolve, unsupported]
    rfl
  rcases changeable?_cases found with fixed | changeable
  · rw [edit_of_fixed fixed, edit_of_fixed fixed]
  · simp only [edit, changeable, Edit.bind_apply, Edit.get_apply, same]

/-- Adding elements is new for lists and sets only. -/
theorem add_withCollections (found : n.obj? = some o) (notList : o.kind ≠ .list)
    (notSet : o.kind ≠ .set) (element : Obj) (elements : List Obj) :
    n.add (.withCollections s) element = n.add (.standard s) element ∧
      n.addAll (.withCollections s) elements = n.addAll (.standard s) elements :=
  ⟨edit_withCollections found notList notSet _ _, edit_withCollections found notList notSet _ _⟩

end Adding

end Navigator

end ObjectGraph
