import ObjectGraph.Obj.Parts
import ObjectGraph.Error

/-!
Classes: the named members through which objects of a type are read, written and made. A field is
stored in a slot of the object; a method computes; a constructor makes a new object from arguments.
A bean may embed the bean of a parent class in one of its slots, and a lineage lists a class with
its embedded parents, the nearest first.

Members check what they are given. A call names the object that it is made on, which has to be of
the class's own type, and an argument has to be one that the declared type accepts; nothing is
converted. An argument is checked before the object.
-/

set_option autoImplicit false
namespace ObjectGraph

/-- A value that was read: an object, and whether it stands on its own rather than in the graph. -/
structure Value where
  obj : Obj
  owned : Bool

namespace Value

def shared (obj : Obj) : Value := ⟨obj, false⟩

def detached (obj : Obj) : Value := ⟨obj, true⟩

end Value

/-- An action on an object that may change it and then succeed or fail; a change made before a
failure stays. -/
abbrev Edit (ε : Type) := EStateM ε Obj

namespace Edit

variable {ε δ α : Type}

def ofExcept : Except ε α → Edit ε α
  | .ok a => pure a
  | .error e => throw e

def mapError (f : ε → δ) (edit : Edit ε α) : Edit δ α := fun o =>
  match edit o with
  | .ok a o' => .ok a o'
  | .error e o' => .error (f e) o'

/-- Acts on the part at a place and puts the part back, after a failure too. -/
def inside (place : Place) (part : Obj) (edit : Edit ε α) : Edit ε α := fun whole =>
  match edit part with
  | .ok a part' => .ok a (whole.replaceAt place part')
  | .error e part' => .error e (whole.replaceAt place part')

end Edit

/-- The objects that the members of a class can be called on. -/
inductive Target where
  | bean (type : String)
  | container
deriving DecidableEq, Repr

namespace Target

def name : Target → String
  | .bean type => type
  | .container => "collection"

def accepts : Target → Obj → Bool
  | .bean type, .bean other _ => type == other
  | .container, .list _ _ _ => true
  | .container, .array _ _ _ => true
  | .container, .map _ _ _ _ => true
  | .container, .set _ _ _ => true
  | _, _ => false

def check (t : Target) (o : Obj) : Except InvokeError Unit :=
  if t.accepts o then .ok () else .error (.targetMismatch t.name o.typeName)

end Target

def Ty.required (t : Ty) : Option Obj → Except InvokeError Obj
  | none => .error (.nullArgument t.slotName)
  | some o =>
    match t.convert o with
    | .ok o => .ok o
    | .error o => .error (.incompatibleArgument t.slotName o.typeName)

/-- Gives a value or none to a slot of the type that may stay empty. -/
def Ty.optional (t : Ty) : Option Obj → Except InvokeError (Option Obj)
  | none => .ok none
  | some o => (t.required (some o)).map some

def Ty.argument (t : Ty) (nullable : Bool) (v : Option Obj) : Except InvokeError (Option Obj) :=
  if nullable then t.optional v else (t.required v).map some

structure Field where
  name : String
  slot : String
  ty : Ty
  nullable : Bool
  readonly : Bool

/-- What a method does with an object of its class. A companion may change the object and then says
where in it the part to be changed sits. -/
inductive MethodBody where
  | getter (read : Obj → Option Value)
  | companion (borrow : Obj → Obj × Option Place)
  | setter (write : Obj → Option Obj → Obj)

structure Method where
  name : String
  ty : Ty
  nullable : Bool
  body : MethodBody

namespace Method

def isGetter (m : Method) : Bool :=
  match m.body with
  | .getter _ => true
  | _ => false

def isCompanion (m : Method) : Bool :=
  match m.body with
  | .companion _ => true
  | _ => false

def isSetter (m : Method) : Bool :=
  match m.body with
  | .setter _ => true
  | _ => false

def paramCount (m : Method) : Nat :=
  if m.isSetter then 1 else 0

end Method

structure Param where
  ty : Ty
  nullable : Bool

/-- A constructor: its parameters, and the object made from arguments that fit them. -/
structure Constructor where
  name : String
  params : List Param
  build : List (Option Obj) → Except InvokeError Obj

structure Class where
  name : String
  target : Target
  fields : List Field
  methods : List Method
  constructors : List Constructor

structure Parent where
  slot : String
  cls : Class

/-- A class and its embedded parents, the nearest first. -/
structure Lineage where
  own : Class
  parents : List Parent

namespace Field

def read (f : Field) (target : Target) (o : Obj) : Except InvokeError (Option Obj) := do
  target.check o
  return o.part? (.field f.slot)

def borrow (f : Field) (target : Target) : Edit InvokeError (Option Place) := do
  let o ← get
  Edit.ofExcept (target.check o)
  return (o.part? (.field f.slot)).map fun _ => [.field f.slot]

def write (f : Field) (target : Target) (v : Option Obj) : Edit InvokeError Unit := do
  if f.readonly then throw (.readOnly f.name)
  let v ← Edit.ofExcept (f.ty.argument f.nullable v)
  let o ← get
  Edit.ofExcept (target.check o)
  match o with
  | .bean type fields => set (Obj.bean type (Fields.set f.slot v fields))
  | _ => pure ()

end Field

namespace Method

def callGet (m : Method) (target : Target) (o : Obj) : Except InvokeError (Option Value) :=
  match m.body with
  | .getter read => do
    target.check o
    return read o
  | _ => .error (.wrongRole m.name .getter)

def callBorrow (m : Method) (target : Target) : Edit InvokeError (Option Place) :=
  match m.body with
  | .companion borrow => do
    let o ← get
    Edit.ofExcept (target.check o)
    let (o', place) := borrow o
    set o'
    return place
  | _ => throw (.wrongRole m.name .mutableGetter)

def callSet (m : Method) (target : Target) (v : Option Obj) : Edit InvokeError Unit :=
  match m.body with
  | .setter write => do
    let v ← Edit.ofExcept (m.ty.argument m.nullable v)
    let o ← get
    Edit.ofExcept (target.check o)
    set (write o v)
  | _ => throw (.wrongRole m.name .setter)

end Method

namespace Constructor

def paramTypes (c : Constructor) : List Ty :=
  c.params.map Param.ty

def checkArgs : List Param → List (Option Obj) → Except InvokeError (List (Option Obj))
  | p :: params, v :: args => do
    let v ← p.ty.argument p.nullable v
    return v :: (← checkArgs params args)
  | _, _ => .ok []

def invoke (c : Constructor) (args : List (Option Obj)) : Except InvokeError Obj := do
  if args.length != c.params.length then
    throw (.argumentCount c.params.length args.length)
  c.build (← checkArgs c.params args)

end Constructor

namespace Class

def field? (c : Class) (name : String) : Option Field :=
  c.fields.find? (·.name == name)

def method? (c : Class) (name : String) : Option Method :=
  c.methods.find? (·.name == name)

def defaultConstructor? (c : Class) : Option Constructor :=
  c.constructors.find? (·.params.isEmpty)

def isEmptyContainer : Obj → Bool
  | .list _ _ items => items.isEmpty
  | .array _ _ items => items.isEmpty
  | .map _ _ _ entries => entries.isEmpty
  | .set _ _ members => members.isEmpty
  | _ => false

/-- The class that all containers share: it tells whether they are empty. -/
def collection : Class where
  name := "collection"
  target := .container
  fields := []
  methods := [⟨"is_empty", .bool, false,
    .getter fun o => some (.detached (.bool (isEmptyContainer o)))⟩]
  constructors := []

end Class

structure Upcast where
  child : Target
  slot : String
  parent : String

def Upcast.follow : List Upcast → Obj → Except InvokeError Obj
  | [], o => .ok o
  | step :: steps, o =>
    match if step.child.accepts o then o.part? (.field step.slot) else none with
    | some parent => follow steps parent
    | none => .error (.targetMismatch step.parent o.typeName)

def Upcast.place (steps : List Upcast) : Place :=
  steps.map fun step => .field step.slot

namespace Lineage

def single (c : Class) : Lineage := ⟨c, []⟩

def parent? (l : Lineage) : Option Parent := l.parents.head?

def routes (reached : List Upcast) (c : Class) : List Parent → List (List Upcast × Class)
  | [] => [(reached, c)]
  | p :: parents =>
    (reached, c) :: routes (reached ++ [⟨c.target, p.slot, p.cls.name⟩]) p.cls parents

/-- The classes of a lineage, the own class first, each with the steps that lead to it. -/
def classes (l : Lineage) : List (List Upcast × Class) :=
  routes [] l.own l.parents

end Lineage

end ObjectGraph
