import ObjectGraph.Text.Case
import ObjectGraph.Error

/-!
Property names. A namer says which methods get and set properties and how a property is called
after its method. The usual namer takes the text after `get`, `set` or `is`, drops one underscore,
and lowers the first character unless the second is uppercase: `getURL` and `get_URL` are the
property `URL`, `getName` and `is_name` the property `name`.
-/

set_option autoImplicit false
namespace ObjectGraph

/-- Decides which methods are accessors and how properties are called. -/
structure PropertyNamer where
  isGetter : String → Bool
  isSetter : String → Bool
  property? : String → Option String
  requiresBool : String → Bool
  isValid : String → Bool

def PropertyNamer.property (namer : PropertyNamer) (method : String) : Except AccessError String :=
  match namer.property? method with
  | some name => .ok name
  | none => .error (.malformedName method)

namespace Naming

def afterPrefix : List Char → Option (List Char)
  | 'i' :: 's' :: rest => some rest
  | 'g' :: 'e' :: 't' :: rest => some rest
  | 's' :: 'e' :: 't' :: rest => some rest
  | _ => none

def dropUnderscore : List Char → List Char
  | '_' :: rest => rest
  | cs => cs

/-- Lowers the first character, unless the second one is uppercase. -/
def decapitalize : List Char → List Char
  | [] => []
  | [c] => Text.lowercase c
  | c :: d :: rest =>
    if Text.isUppercase d then c :: d :: rest else Text.lowercase c ++ d :: rest

def methodToProperty (method : String) : Option String :=
  (afterPrefix method.toList).map fun rest =>
    String.ofList (decapitalize (dropUnderscore rest))

def extendsPrefix (start : List Char) (name : String) : Bool :=
  start.isPrefixOf name.toList && start.length < name.toList.length

def isGetter (method : String) : Bool :=
  extendsPrefix ['g', 'e', 't'] method || extendsPrefix ['i', 's'] method

def isSetter (method : String) : Bool :=
  extendsPrefix ['s', 'e', 't'] method

def isAccessor (method : String) : Bool :=
  isGetter method || isSetter method

def requiresBool (method : String) : Bool :=
  ['i', 's'].isPrefixOf method.toList

def isValidProperty (name : String) : Bool :=
  match name.toList with
  | [] => false
  | c :: _ => c != '$' && name != "serialVersionUID" && name != "class"

end Naming

def PropertyNamer.bean : PropertyNamer where
  isGetter := Naming.isGetter
  isSetter := Naming.isSetter
  property? := Naming.methodToProperty
  requiresBool := Naming.requiresBool
  isValid := Naming.isValidProperty

end ObjectGraph
