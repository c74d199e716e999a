import ObjectGraph.Sample.Members
import ObjectGraph.Sample.Policies

/-!
The schema of the sample beans.
-/

set_option autoImplicit false
namespace ObjectGraph.Sample

def methodsOf (className : String) : List Method :=
  match className with
  | "Employee" => employeeMethods
  | "Manager" => managerMethods
  | "Holder" => holderMethods
  | "Shapes" => shapesMethods
  | "Dropper" => dropperMethods
  | "Base" => baseMethods
  | _ => []

def constructorsOf (className : String) : List Constructor :=
  match className with
  | "Account" => accountConstructors
  | "Both" => bothConstructors
  | "Base" => baseConstructors
  | _ => []

def classOf (d : BeanDecl) : Class :=
  if d.className = "OddClass" then oddClass
  else d.toClass (methodsOf d.className) (constructorsOf d.className)

/-- The embedded parents of a declared bean, at most `depth` of them. -/
def parentsOf (d : BeanDecl) : Nat → List Parent
  | 0 => []
  | depth + 1 =>
    match d.parentSlot? with
    | some ⟨slot, .bean type, _, _⟩ =>
      match declaration? type with
      | some parent => ⟨slot, classOf parent⟩ :: parentsOf parent depth
      | none => []
    | _ => []

def lineageOf (d : BeanDecl) : Lineage :=
  ⟨classOf d, parentsOf d declarations.length⟩

def adapterOf (className : String) : Option Adapter :=
  match className with
  | "SelfMap" => some .map
  | "Echo" => some (.custom echo)
  | _ => none

def beanType (d : BeanDecl) : BeanType where
  layout := d.layout
  lineage := lineageOf d
  default? := if d.hasDefault then blankBeans.lookup d.type else none
  adapter? := adapterOf d.className

def schema : Schema where
  bean? type := (declaration? type).map beanType

end ObjectGraph.Sample
