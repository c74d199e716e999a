import ObjectGraph.Ty

/-!
Objects. A scalar has no parts; lists and arrays hold items by position, maps hold values by key,
sets hold members, and a bean holds its fields by name, each of which may be absent. Every object
knows its concrete type.

Two normal forms keep equal containers equal: the entries of a map stand in the order in which the
map enumerates its keys, and the members of a set stand in their natural order.
-/

set_option autoImplicit false
namespace ObjectGraph

/-- A value without parts. Floating-point numbers are kept as their bits. -/
inductive Scalar where
  | bool (value : Bool)
  | char (value : Char)
  | int (type : IntType) (value : Int)
  | f32 (bits : UInt32)
  | f64 (bits : UInt64)
  | str (value : String)
deriving DecidableEq, Repr

def Scalar.type : Scalar → ScalarType
  | .bool _ => .bool
  | .char _ => .char
  | .int t _ => .int t
  | .f32 _ => .f32
  | .f64 _ => .f64
  | .str _ => .str

def ScalarType.default : ScalarType → Scalar
  | .bool => .bool false
  | .char => .char '\x00'
  | .int t => .int t 0
  | .f32 => .f32 0
  | .f64 => .f64 0
  | .str => .str ""

inductive Obj where
  | scalar (value : Scalar)
  | list (kind : ListKind) (item : Ty) (items : List Obj)
  | array (kind : ArrayKind) (item : Ty) (items : List Obj)
  | map (kind : MapKind) (key : KeyType) (value : Ty) (entries : List (Key × Obj))
  | set (kind : SetKind) (item : Ty) (members : List Obj)
  | bean (type : String) (fields : List (String × Option Obj))
deriving Inhabited

inductive ObjKind where
  | value
  | bean
  | list
  | array
  | map
  | set
deriving DecidableEq, Repr

def ObjKind.name : ObjKind → String
  | .value => "Value"
  | .bean => "Bean"
  | .list => "List"
  | .array => "Array"
  | .map => "Map"
  | .set => "Set"

namespace Obj

def str (s : String) : Obj := .scalar (.str s)

def bool (b : Bool) : Obj := .scalar (.bool b)

def int (t : IntType) (n : Int) : Obj := .scalar (.int t n)

def ty : Obj → Ty
  | .scalar s => .scalar s.type
  | .list k item _ => .list k item
  | .array k item _ => .array k item
  | .map k key value _ => .map k key value
  | .set k item _ => .set k item
  | .bean name _ => .bean name

def typeName (o : Obj) : String :=
  o.ty.name

def kind : Obj → ObjKind
  | .scalar _ => .value
  | .list _ _ _ => .list
  | .array _ _ _ => .array
  | .map _ _ _ _ => .map
  | .set _ _ _ => .set
  | .bean _ _ => .bean

def isMap (o : Obj) : Bool :=
  o.kind == .map

/-- Whether the object's items or values are reached by key: maps, lists and arrays. -/
def isIndexable (o : Obj) : Bool :=
  match o.kind with
  | .list | .array | .map => true
  | .value | .bean | .set => false

end Obj

/-- Whether a slot of the type takes the object: any object, any container of a shape, or exactly
the objects of a concrete type. No object is converted to fit. -/
def Ty.accepts (t : Ty) (o : Obj) : Bool :=
  match t with
  | .any => true
  | .shaped .list => o.kind == .list
  | .shaped .map => o.kind == .map
  | .shaped .set => o.kind == .set
  | .shaped .sortedSet => false
  | concrete => o.ty == concrete

/-- Hands the object to a slot of the type, or back. -/
def Ty.convert (t : Ty) (o : Obj) : Except Obj Obj :=
  if t.accepts o then .ok o else .error o

def Obj.sameType (a b : Obj) : Bool :=
  a.ty == b.ty

end ObjectGraph
