import ObjectGraph.Invoker
import ObjectGraph.Naming

/-!
Descriptors: which member serves each property of a type. For reading, the first getter method that
a namer maps to the property comes first, in the order of the lineage and then of declaration, and
after all methods the first field of the property's name. Writing follows the same rule with setter
methods and with the fields that may be written.
-/

set_option autoImplicit false
namespace ObjectGraph

def PropertyNamer.validProperty? (namer : PropertyNamer) (method : String) : Option String :=
  match namer.property? method with
  | some property => if namer.isValid property then some property else none
  | none => none

/-- Whether a method of the name `candidate` is the companion of the getter. -/
def isCompanionName (getter candidate : String) : Bool :=
  candidate == getter ++ "_mut" || candidate == getter ++ "Mut"

def Class.mutablePath (c : Class) (getter property : String) : MutablePath :=
  match c.methods.find? fun m => m.isCompanion && isCompanionName getter m.name with
  | some m => .companion m
  | none =>
    match c.field? property with
    | some f => .field f
    | none => .none

def Method.readProperty? (m : Method) (namer : PropertyNamer) : Option String :=
  if m.isGetter && namer.isGetter m.name && (!namer.requiresBool m.name || m.ty == .bool) then
    namer.validProperty? m.name
  else none

def Method.writtenProperty? (m : Method) (namer : PropertyNamer) : Option String :=
  if m.isSetter && namer.isSetter m.name then namer.validProperty? m.name else none

namespace Class

def methodReaders (namer : PropertyNamer) (route : List Upcast) (c : Class) : List Invoker :=
  c.methods.filterMap fun m =>
    (m.readProperty? namer).map fun property =>
      ⟨property, route, c.target, .method m (c.mutablePath m.name property)⟩

def methodWriters (namer : PropertyNamer) (route : List Upcast) (c : Class) : List Invoker :=
  c.methods.filterMap fun m =>
    (m.writtenProperty? namer).map fun property =>
      ⟨property, route, c.target, .method m .none⟩

def fieldReaders (namer : PropertyNamer) (route : List Upcast) (c : Class) : List Invoker :=
  (c.fields.filter fun f => namer.isValid f.name).map fun f =>
    ⟨f.name, route, c.target, .field f⟩

def fieldWriters (namer : PropertyNamer) (route : List Upcast) (c : Class) : List Invoker :=
  (c.fields.filter fun f => namer.isValid f.name && !f.readonly).map fun f =>
    ⟨f.name, route, c.target, .field f⟩

end Class

namespace Lineage

/-- All readings of properties, the ones that win first. -/
def readers (namer : PropertyNamer) (l : Lineage) : List Invoker :=
  (l.classes.flatMap fun (route, c) => c.methodReaders namer route) ++
    l.classes.flatMap fun (route, c) => c.fieldReaders namer route

def writers (namer : PropertyNamer) (l : Lineage) : List Invoker :=
  (l.classes.flatMap fun (route, c) => c.methodWriters namer route) ++
    l.classes.flatMap fun (route, c) => c.fieldWriters namer route

end Lineage

def firstOfEach : List Invoker → List Invoker
  | [] => []
  | i :: rest => i :: (firstOfEach rest).filter (·.property != i.property)

/-- A type with the invokers of its properties. -/
structure Descriptor where
  ty : Ty
  getters : List Invoker
  setters : List Invoker
  defaultConstructor? : Option Constructor

namespace Descriptor

/-- The descriptor of a type with the given lineage; a type without a class has no properties. -/
def build (namer : PropertyNamer) (ty : Ty) (lineage? : Option Lineage) : Descriptor :=
  match lineage? with
  | none => ⟨ty, [], [], none⟩
  | some l =>
    ⟨ty, firstOfEach (l.readers namer), firstOfEach (l.writers namer), l.own.defaultConstructor?⟩

def getter? (d : Descriptor) (property : String) : Option Invoker :=
  d.getters.find? (·.property == property)

def setter? (d : Descriptor) (property : String) : Option Invoker :=
  d.setters.find? (·.property == property)

def getter (d : Descriptor) (property : String) : Except AccessError Invoker :=
  match d.getter? property with
  | some i => .ok i
  | none => .error (.accessorNotFound .getter d.ty.name property)

def setter (d : Descriptor) (property : String) : Except AccessError Invoker :=
  match d.setter? property with
  | some i => .ok i
  | none => .error (.accessorNotFound .setter d.ty.name property)

def sortedNames (invokers : List Invoker) : List String :=
  (invokers.map Invoker.property).mergeSort fun a b => decide (a ≤ b)

def getterNames (d : Descriptor) : List String :=
  sortedNames d.getters

def setterNames (d : Descriptor) : List String :=
  sortedNames d.setters

def getterType? (d : Descriptor) (property : String) : Option Ty :=
  (d.getter? property).map Invoker.valueType

def setterType? (d : Descriptor) (property : String) : Option Ty :=
  (d.setter? property).map Invoker.valueType

def hasGetter (d : Descriptor) (property : String) : Bool :=
  (d.getter? property).isSome

def hasSetter (d : Descriptor) (property : String) : Bool :=
  (d.setter? property).isSome

end Descriptor

end ObjectGraph
