import ObjectGraph.Obj.Printer

/-!
Making objects. The usual factory gives an open type a container of its own choice, makes an object
without arguments by the class's constructor without parameters or else takes the default instance,
and makes one with arguments by the first constructor with exactly the given parameter types.
-/

set_option autoImplicit false
namespace ObjectGraph

/-- Makes objects of types, from arguments of given types. -/
structure ObjectFactory where
  create : Ty → List Ty → List (Option Obj) → Except AccessError Obj
  isCollection : Ty → Bool

def ObjectFactory.make (f : ObjectFactory) (t : Ty) : Except AccessError Obj :=
  f.create t [] []

/-- The concrete type that stands for a type: open types get a container. -/
def Ty.concrete : Ty → Ty
  | .shaped .list => .list .vec .any
  | .shaped .map => .map .hash .str .any
  | .any => .map .hash .str .any
  | .shaped .sortedSet => .set .sorted Ty.str
  | .shaped .set => .set .hash Ty.str
  | t => t

namespace Schema

/-- An object without arguments: by the first constructor without parameters, or the default. -/
def instantiate (s : Schema) (t : Ty) : Except InstantiateError Obj :=
  match (s.lineage? t).bind fun l => l.own.defaultConstructor? with
  | some c => (c.invoke []).mapError .constructor
  | none =>
    match s.default? t with
    | some o => .ok o
    | none => .error .noDefaultConstructor

/-- The first constructor of a type with exactly the given parameter types. -/
def constructor? (s : Schema) (t : Ty) (types : List Ty) : Option Constructor :=
  (s.lineage? t).bind fun l => l.own.constructors.find? (·.paramTypes == types)

def instantiateWith (s : Schema) (t : Ty) (types : List Ty) (args : List (Option Obj)) :
    Except InstantiateError Obj :=
  match s.constructor? t types with
  | some c => (c.invoke args).mapError .constructor
  | none => .error .noMatchingConstructor

end Schema

def describeTypes (types : List Ty) : String :=
  ", ".intercalate (types.map Ty.name)

def describeArgs (layouts : Layouts) (args : List (Option Obj)) : String :=
  ", ".intercalate (args.map fun v => (v.map (Obj.debug layouts)).getD "null")

def ObjectFactory.standard (s : Schema) : ObjectFactory where
  create t types args :=
    let target := t.concrete
    if types.isEmpty && args.isEmpty then
      (s.instantiate target).mapError (.instantiationFailed target.name "" "")
    else
      (s.instantiateWith target types args).mapError
        (.instantiationFailed target.name (describeTypes types) (describeArgs s.layouts args))
  isCollection := Ty.isCollection

end ObjectGraph
