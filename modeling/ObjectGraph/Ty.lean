import ObjectGraph.Key

/-!
Types of objects. A concrete type says exactly which container or bean holds the values; an open
type (`any`, or one of the abstract shapes) says only what a slot accepts. Each type has a name,
and an open type has a second one under which it appears as a part of other types.
-/

set_option autoImplicit false
namespace ObjectGraph

inductive ScalarType where
  | bool
  | char
  | int (type : IntType)
  | f32
  | f64
  | str
deriving DecidableEq, Repr

/-- The lists, which grow at their end. -/
inductive ListKind where
  | vec
  | deque
deriving DecidableEq, Repr

/-- The arrays, whose length is fixed by the type or by the instance. -/
inductive ArrayKind where
  | fixed (length : Nat)
  | slice
deriving DecidableEq, Repr

/-- The maps: two that enumerate their keys as sorted texts and one that keeps them in key order. -/
inductive MapKind where
  | hash
  | swiss
  | sorted
deriving DecidableEq, Repr

/-- The sets, unordered and ordered. Their items are of a type with an equality or an order of its own. -/
inductive SetKind where
  | hash
  | sorted
deriving DecidableEq, Repr

/-- Shapes that a slot may ask for without naming a container. -/
inductive Shape where
  | list
  | map
  | set
  | sortedSet
deriving DecidableEq, Repr

/-- A type. Beans are named; what a name means is said by a schema. -/
inductive Ty where
  | scalar (type : ScalarType)
  | list (kind : ListKind) (item : Ty)
  | array (kind : ArrayKind) (item : Ty)
  | map (kind : MapKind) (key : KeyType) (value : Ty)
  | set (kind : SetKind) (item : Ty)
  | bean (name : String)
  | any
  | shaped (shape : Shape)
deriving DecidableEq, Repr

def ScalarType.name : ScalarType → String
  | .bool => "bool"
  | .char => "char"
  | .int t => t.name
  | .f32 => "f32"
  | .f64 => "f64"
  | .str => "alloc::string::String"

def KeyType.scalar : KeyType → ScalarType
  | .int t => .int t
  | .char => .char
  | .str => .str

namespace Ty

def str : Ty := .scalar .str

def bool : Ty := .scalar .bool

def int (t : IntType) : Ty := .scalar (.int t)

/-- A type's name as a part of other types, and in the errors of a slot: open types stand in a box
there. -/
def slotName : Ty → String
  | .scalar t => t.name
  | .list .vec item => "alloc::vec::Vec<" ++ item.slotName ++ ">"
  | .list .deque item => "alloc::collections::vec_deque::VecDeque<" ++ item.slotName ++ ">"
  | .array (.fixed n) item => "[" ++ item.slotName ++ "; " ++ toString n ++ "]"
  | .array .slice item => "alloc::boxed::Box<[" ++ item.slotName ++ "]>"
  | .map .hash key value =>
    "std::collections::hash::map::HashMap<" ++ key.name ++ ", " ++ value.slotName ++ ">"
  | .map .swiss key value =>
    "hashbrown::map::HashMap<" ++ key.name ++ ", " ++ value.slotName
      ++ ", std::hash::random::RandomState>"
  | .map .sorted key value =>
    "alloc::collections::btree::map::BTreeMap<" ++ key.name ++ ", " ++ value.slotName ++ ">"
  | .set .hash item => "std::collections::hash::set::HashSet<" ++ item.slotName ++ ">"
  | .set .sorted item => "alloc::collections::btree::set::BTreeSet<" ++ item.slotName ++ ">"
  | .bean name => name
  | .any => "alloc::boxed::Box<dyn vc_meta::object::object::Object>"
  | .shaped .list => "alloc::boxed::Box<dyn vc_meta::ops::list::List>"
  | .shaped .map => "alloc::boxed::Box<dyn vc_meta::ops::map::Map>"
  | .shaped .set => "alloc::boxed::Box<dyn vc_meta::ops::set::Set>"
  | .shaped .sortedSet => "alloc::boxed::Box<dyn vc_meta::ops::set::SortedSet>"

def name : Ty → String
  | .any => "dyn vc_meta::object::object::Object"
  | .shaped .list => "dyn vc_meta::ops::list::List"
  | .shaped .map => "dyn vc_meta::ops::map::Map"
  | .shaped .set => "dyn vc_meta::ops::set::Set"
  | .shaped .sortedSet => "dyn vc_meta::ops::set::SortedSet"
  | t => t.slotName

def kindName : Ty → String
  | .scalar _ => "Value"
  | .list _ _ => "List"
  | .array _ _ => "Array"
  | .map _ _ _ => "Map"
  | .set _ _ => "Set"
  | .bean _ => "Bean"
  | .any => "Any"
  | .shaped .list => "Abstract(List)"
  | .shaped .map => "Abstract(Map)"
  | .shaped .set => "Abstract(Set)"
  | .shaped .sortedSet => "Abstract(SortedSet)"

def isOpen : Ty → Bool
  | .any | .shaped _ => true
  | _ => false

/-- Whether objects of the type contain items: lists, arrays and sets. -/
def isCollection : Ty → Bool
  | .list _ _ | .array _ _ | .set _ _ => true
  | .shaped .list | .shaped .set | .shaped .sortedSet => true
  | _ => false

end Ty

end ObjectGraph
