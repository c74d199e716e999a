import ObjectGraph.Trace

/-!
The texts of classes and their members, of types and descriptors, and of the things that navigation
works with, written as records.
-/

set_option autoImplicit false
namespace ObjectGraph

open Text (quoteString)

def listText (items : List String) : String :=
  enclosed "[" "]" items

def optionText : Option String → String
  | none => "None"
  | some text => presentText text

def Ty.debug (t : Ty) : String :=
  recordText "Type" [("name", quoteString t.name), ("kind", t.kindName)]

def Field.debug (f : Field) : String :=
  recordText "FieldInfo" [
    ("name", quoteString f.name),
    ("type", quoteString f.ty.name),
    ("nullable", boolText f.nullable),
    ("readonly", boolText f.readonly)]

def Method.kindName (m : Method) : String :=
  match m.body with
  | .getter _ => "getter"
  | .companion _ => "getter_mut"
  | .setter _ => "setter"

def Method.debug (m : Method) : String :=
  recordText "MethodInfo" [
    ("name", quoteString m.name),
    ("kind", quoteString m.kindName),
    ("type", quoteString m.ty.name),
    ("nullable", boolText m.nullable)]

def Constructor.debug (c : Constructor) : String :=
  recordText "ConstructorInfo" [
    ("name", quoteString c.name),
    ("params", listText (c.paramTypes.map Ty.debug))]

def Parent.debug (p : Parent) : String :=
  recordText "ParentInfo" [("field", quoteString p.slot), ("class", quoteString p.cls.name)]

def Lineage.debug (l : Lineage) : String :=
  recordText "ClassInfo" [
    ("name", quoteString l.own.name),
    ("fields", listText (l.own.fields.map Field.debug)),
    ("methods", listText (l.own.methods.map Method.debug)),
    ("constructors", listText (l.own.constructors.map Constructor.debug)),
    ("parent", optionText (l.parent?.map Parent.debug))]

def Invoker.debug (i : Invoker) : String :=
  let (kind, lender) : String × Option String :=
    match i.member with
    | .field _ => ("field", none)
    | .method _ (.companion c) => ("method", some c.name)
    | .method _ (.field f) => ("method", some f.name)
    | .method _ .none => ("method", none)
  recordText "Invoker" [
    ("property", quoteString i.property),
    ("kind", quoteString kind),
    ("name", quoteString i.name),
    ("type", quoteString i.valueType.name),
    ("mutable", optionText (lender.map quoteString)),
    ("inherited", boolText i.inherited)]

def Descriptor.debug (d : Descriptor) : String :=
  recordText "TypeDescriptor" [
    ("type", quoteString d.ty.name),
    ("getters", listText (d.getterNames.map quoteString)),
    ("setters", listText (d.setterNames.map quoteString)),
    ("default_constructor", boolText d.defaultConstructor?.isSome)]

def AdapterRegistry.debug (r : AdapterRegistry) : String :=
  recordText "AdapterRegistry" [("entries", toString r.length)]

def Reflector.debug (r : Reflector) : String :=
  partialRecordText "Reflector" [("cached", toString r.size)]

def Reflector.contextDebug (r : Reflector) : String :=
  partialRecordText "MetaContext" [("reflector", r.debug)]

def Navigator.modeName : Navigator → String
  | .absent => "absent"
  | .readOnly _ => "read-only"
  | .writable _ => "writable"
  | .owned _ => "owned"

def Navigator.debug (n : Navigator) : String :=
  partialRecordText "Navigator" [
    ("type", quoteString n.typeName),
    ("mode", quoteString n.modeName)]

end ObjectGraph
