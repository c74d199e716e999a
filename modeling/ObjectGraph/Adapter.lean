import ObjectGraph.Adapter.Map

/-!
Adapters as a whole: one function for each way of access, which every adapter answers, and the
choice of the adapter for an object. An object's own adapter comes first, then the one of the
context's factory, and then access by key for maps and by class for everything else.
-/

set_option autoImplicit false
namespace ObjectGraph
namespace CollectionAccess

def add (element : Obj) : Edit AccessError Unit := do
  let o ← get
  match o.view with
  | .list l =>
    set (← Edit.ofExcept ((l.push element).mapError (.incompatibleValue "add" o.typeName))).obj
  | .set members =>
    let (members, _) ←
      Edit.ofExcept ((members.insert element).mapError (.incompatibleValue "add" o.typeName))
    set members.obj
  | _ => throw (.unsupportedBy o "add")

def addAll : List Obj → Edit AccessError Unit
  | [] => pure ()
  | element :: rest => do
    add element
    addAll rest

end CollectionAccess

namespace Adapter

def read (a : Adapter) (ctx : Context) (o : Obj) (s : Segment) :
    Except AccessError (Option Value) :=
  match a with
  | .bean | .collection => BeanAccess.read ctx o s
  | .map => MapAccess.read o s
  | .custom c => c.read o s

def borrow (a : Adapter) (ctx : Context) (s : Segment) : Edit AccessError (Option Place) :=
  match a with
  | .bean | .collection => BeanAccess.borrow ctx s
  | .map => MapAccess.borrow s
  | .custom c => c.borrow s

def write (a : Adapter) (ctx : Context) (s : Segment) (v : Option Obj) :
    Edit AccessError Unit :=
  match a with
  | .bean | .collection => BeanAccess.write ctx s v
  | .map => MapAccess.write s v
  | .custom c => c.write s v

def instantiate (a : Adapter) (ctx : Context) (s : Segment) : Edit AccessError Place :=
  match a with
  | .bean | .collection => BeanAccess.instantiate ctx s
  | .map => MapAccess.instantiate ctx s
  | .custom c => c.instantiate s

def getterNames (a : Adapter) (ctx : Context) (o : Obj) : List String :=
  match a with
  | .bean | .collection => BeanAccess.getterNames ctx o
  | .map => MapAccess.names o
  | .custom c => c.getterNames o

def setterNames (a : Adapter) (ctx : Context) (o : Obj) : List String :=
  match a with
  | .bean | .collection => BeanAccess.setterNames ctx o
  | .map => MapAccess.names o
  | .custom c => c.setterNames o

def getterType? (a : Adapter) (ctx : Context) (o : Obj) (name : String) : Option Ty :=
  match a with
  | .bean | .collection => BeanAccess.getterType? ctx o name
  | .map => MapAccess.valueType? o
  | .custom c => c.getterType? o name

def setterType? (a : Adapter) (ctx : Context) (o : Obj) (name : String) : Option Ty :=
  match a with
  | .bean | .collection => BeanAccess.setterType? ctx o name
  | .map => MapAccess.valueType? o
  | .custom c => c.setterType? o name

def hasGetter (a : Adapter) (ctx : Context) (o : Obj) (name : String) : Bool :=
  match a with
  | .bean | .collection => BeanAccess.hasGetter ctx o name
  | .map => true
  | .custom c => c.hasGetter o name

def hasSetter (a : Adapter) (ctx : Context) (o : Obj) (name : String) : Bool :=
  match a with
  | .bean | .collection => BeanAccess.hasSetter ctx o name
  | .map => true
  | .custom c => c.hasSetter o name

def add (a : Adapter) (element : Obj) : Edit AccessError Unit :=
  match a with
  | .bean | .map => do throw (.unsupportedBy (← get) "add")
  | .collection => CollectionAccess.add element
  | .custom c => c.add element

def addAll (a : Adapter) (elements : List Obj) : Edit AccessError Unit :=
  match a with
  | .bean | .map => do throw (.unsupportedBy (← get) "add_all")
  | .collection => CollectionAccess.addAll elements
  | .custom c => c.addAll elements

end Adapter

/-- The adapter chosen for an object, and whether it was chosen by its kind alone. -/
structure Resolution where
  adapter : Adapter
  byKind : Bool

namespace Context

/-- The adapter for an object of a kind that nothing else provides for. -/
def adapterByKind (o : Obj) : Adapter :=
  if o.isMap then .map else .bean

def resolve (ctx : Context) (o : Obj) : Except AccessError Resolution :=
  match ctx.schema.adapter? o with
  | some a => .ok ⟨a, false⟩
  | none =>
    if ctx.adapters.supports o then (ctx.adapters.adapterFor o).map (⟨·, false⟩)
    else .ok ⟨adapterByKind o, true⟩

def adapter (ctx : Context) (o : Obj) : Except AccessError Adapter :=
  (ctx.resolve o).map Resolution.adapter

end Context

def Resolution.debug (r : Resolution) : String :=
  match r.byKind, r.adapter with
  | true, .map => "Adapter::Map"
  | true, _ => "Adapter::Bean"
  | false, _ => "Adapter::Custom"

end ObjectGraph
