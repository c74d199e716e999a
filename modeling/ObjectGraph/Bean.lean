import ObjectGraph.Schema

/-!
Bean types from the list of their slots. A slot is a property that can be read and written, one that
can only be read, the embedded parent, or hidden; the class has a field for each property.
-/

set_option autoImplicit false
namespace ObjectGraph

/-- What a slot of a bean is for. -/
inductive SlotRole where
  | property
  | readonly
  | parent
  | hidden
deriving DecidableEq, Repr

/-- A slot of a bean as it is declared. -/
structure SlotDecl where
  name : String
  ty : Ty
  nullable : Bool
  role : SlotRole
deriving DecidableEq, Repr

namespace SlotDecl

def always (name : String) (ty : Ty) : SlotDecl := ⟨name, ty, false, .property⟩

def maybe (name : String) (ty : Ty) : SlotDecl := ⟨name, ty, true, .property⟩

def asReadonly (d : SlotDecl) : SlotDecl := { d with role := .readonly }

def asHidden (d : SlotDecl) : SlotDecl := { d with role := .hidden }

def asParent (d : SlotDecl) : SlotDecl := { d with role := .parent }

def slotType (d : SlotDecl) : SlotType := ⟨d.name, d.ty, d.nullable⟩

def field? (d : SlotDecl) : Option Field :=
  match d.role with
  | .property => some ⟨d.name, d.name, d.ty, d.nullable, false⟩
  | .readonly => some ⟨d.name, d.name, d.ty, d.nullable, true⟩
  | .parent | .hidden => none

end SlotDecl

/-- A bean type as it is declared: the name of the type and of its class, its slots, and whether it
has a default instance, can be compared and is shown field by field. -/
structure BeanDecl where
  type : String
  className : String
  slots : List SlotDecl
  hasDefault : Bool
  comparable : Bool
  showsFields : Bool

namespace BeanDecl

def layout (d : BeanDecl) : Layout :=
  ⟨d.className, d.slots.map SlotDecl.slotType, d.comparable, d.showsFields⟩

def toClass (d : BeanDecl) (methods : List Method) (constructors : List Constructor) : Class where
  name := d.className
  target := .bean d.type
  fields := d.slots.filterMap SlotDecl.field?
  methods := methods
  constructors := constructors

def parentSlot? (d : BeanDecl) : Option SlotDecl :=
  d.slots.find? (·.role == .parent)

end BeanDecl

end ObjectGraph
