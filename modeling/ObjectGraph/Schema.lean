import ObjectGraph.Class
import ObjectGraph.Path

/-!
Schemas: what the names of bean types mean. A bean type has a layout, which lists its slots and says
whether its objects can be compared and shown field by field; a lineage of classes; possibly a
default instance; and possibly an adapter of its own.

An adapter decides how an object answers access by name. Three are given: one that goes by the
members of the object's class, one that goes by the keys of a map, and one that goes by class but
also adds elements to lists and sets. Others are records of functions.
-/

set_option autoImplicit false
namespace ObjectGraph

def AccessError.unsupportedBy (o : Obj) (operation : String) : AccessError :=
  .unsupported o.typeName operation

structure CustomAdapter where
  read : Obj → Segment → Except AccessError (Option Value)
  borrow : Segment → Edit AccessError (Option Place)
  write : Segment → Option Obj → Edit AccessError Unit
  getterNames : Obj → List String
  setterNames : Obj → List String
  getterType? : Obj → String → Option Ty
  setterType? : Obj → String → Option Ty
  hasGetter : Obj → String → Bool
  hasSetter : Obj → String → Bool
  instantiate : Segment → Edit AccessError Place
  add : Obj → Edit AccessError Unit := fun _ => do throw (.unsupportedBy (← get) "add")
  addAll : List Obj → Edit AccessError Unit := fun _ => do throw (.unsupportedBy (← get) "add_all")

/-- How an object answers access by name. -/
inductive Adapter where
  | bean
  | map
  | collection
  | custom (adapter : CustomAdapter)

structure SlotType where
  name : String
  ty : Ty
  nullable : Bool

/-- The shape of the objects of a bean type. -/
structure Layout where
  className : String
  slots : List SlotType
  comparable : Bool
  showsFields : Bool

def Layout.slot? (l : Layout) (name : String) : Option SlotType :=
  l.slots.find? (·.name == name)

abbrev Layouts := String → Option Layout

/-- What the name of a bean type means. -/
structure BeanType where
  layout : Layout
  lineage : Lineage
  default? : Option Obj
  adapter? : Option Adapter

/-- What the names of bean types mean. -/
structure Schema where
  bean? : String → Option BeanType

namespace Schema

def layouts (s : Schema) : Layouts := fun name =>
  (s.bean? name).map BeanType.layout

/-- The lineage of a type: that of a bean, or the class that all containers share. -/
def lineage? (s : Schema) : Ty → Option Lineage
  | .bean name => (s.bean? name).map BeanType.lineage
  | .list _ _ => some (.single .collection)
  | .array _ _ => some (.single .collection)
  | .map _ _ _ => some (.single .collection)
  | .set _ _ => some (.single .collection)
  | .scalar _ => none
  | .any => none
  | .shaped _ => none

/-- The default instance of a type. Arrays whose length belongs to the type have none. -/
def default? (s : Schema) : Ty → Option Obj
  | .scalar t => some (.scalar t.default)
  | .list kind item => some (.list kind item [])
  | .array .slice item => some (.array .slice item [])
  | .array (.fixed _) _ => none
  | .map kind key value => some (.map kind key value [])
  | .set kind item => some (.set kind item [])
  | .bean name => (s.bean? name).bind BeanType.default?
  | .any => none
  | .shaped _ => none

def adapter? (s : Schema) : Obj → Option Adapter
  | .bean name _ => (s.bean? name).bind BeanType.adapter?
  | _ => none

end Schema

end ObjectGraph
