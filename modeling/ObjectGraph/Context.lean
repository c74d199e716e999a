import ObjectGraph.Descriptor
import ObjectGraph.Factory

/-!
Contexts: everything that access to an object graph depends on. A schema says what the bean types
are, a namer what their properties are called, an object factory makes missing objects, and an
adapter factory may choose an adapter for an object that brings none of its own.
-/

set_option autoImplicit false
namespace ObjectGraph

structure AdapterFactory where
  supports : Obj → Bool
  adapterFor : Obj → Except AccessError Adapter

def AccessError.unavailableFor (o : Obj) : AccessError :=
  .adapterUnavailable o.typeName

def AdapterFactory.none : AdapterFactory where
  supports _ := false
  adapterFor o := .error (.unavailableFor o)

structure RegistryEntry where
  applies : Obj → Bool
  adapter : Adapter

/-- Adapters by description; the first entry that applies to an object counts. -/
abbrev AdapterRegistry := List RegistryEntry

namespace AdapterRegistry

def find? (r : AdapterRegistry) (o : Obj) : Option Adapter :=
  (List.find? (fun entry => entry.applies o) r).map RegistryEntry.adapter

def collections : RegistryEntry where
  applies o := o.kind == .list || o.kind == .set
  adapter := .collection

def factory (r : AdapterRegistry) : AdapterFactory where
  supports o := (r.find? o).isSome
  adapterFor o :=
    match r.find? o with
    | some a => .ok a
    | none => .error (.unavailableFor o)

end AdapterRegistry

/-- What access to an object graph depends on. -/
structure Context where
  schema : Schema
  namer : PropertyNamer
  objects : ObjectFactory
  adapters : AdapterFactory

namespace Context

def standard (s : Schema) : Context where
  schema := s
  namer := .bean
  objects := .standard s
  adapters := .none

def descriptor (ctx : Context) (t : Ty) : Descriptor :=
  .build ctx.namer t (ctx.schema.lineage? t)

def descriptorOf (ctx : Context) (o : Obj) : Descriptor :=
  ctx.descriptor o.ty

def createMissing (ctx : Context) (owner : Obj) (s : Segment) (property : String) (t : Ty) :
    Except AccessError Obj :=
  (ctx.objects.make t).mapError (.creationFailed s.text owner.typeName property)

end Context

end ObjectGraph
