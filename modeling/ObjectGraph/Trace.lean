import ObjectGraph.Navigator
import ObjectGraph.Reflector

/-!
What can be observed of a walk besides its result: which adapters were chosen for a special reason,
which types were described, and which objects were made on the way. Each function lists the events
of the operation of the same name, in their order.
-/

set_option autoImplicit false
namespace ObjectGraph

/-- Something that happens on the way. -/
inductive Event where
  | adaptsItself (type : String)
  | usesFactory (type : String)
  | described (type : Ty)
  | instantiating (segment type : String)
  | created (type key : String)
  | cannotInspect (type : String) (cause : AccessError)

namespace Trace

def resolve (ctx : Context) (o : Obj) : List Event :=
  if (ctx.schema.adapter? o).isSome then [.adaptsItself o.typeName]
  else if ctx.adapters.supports o then [.usesFactory o.typeName]
  else []

/-- A look at an object's descriptor, for every segment that names a property. -/
def property (o : Obj) (s : Segment) : List Event :=
  if s.isIndexed && s.name == "" then [] else [.described o.ty]

def access (a : Adapter) (o : Obj) (s : Segment) : List Event :=
  match a with
  | .bean | .collection => property o s
  | .map | .custom _ => []

def question (a : Adapter) (o : Obj) (name : String) : List Event :=
  match BeanAccess.onlySegment? name with
  | some s => access a o s
  | none => []

def names (a : Adapter) (o : Obj) : List Event :=
  match a with
  | .bean | .collection => [.described o.ty]
  | .map | .custom _ => []

def instantiate (ctx : Context) (a : Adapter) (o : Obj) (s : Segment) : List Event :=
  match a with
  | .map =>
    if s.isIndexed then []
    else
      match MapAccess.valueType? o with
      | none => []
      | some value =>
        match ctx.createMissing o s s.name (MapAccess.missingType value) with
        | .ok made => [.created made.typeName s.name]
        | .error _ => []
  | a => access a o s

def lent {α : Type} (result : EStateM.Result AccessError Obj α) (place? : α → Option Place)
    (rest : Obj → List Event) : List Event :=
  match result with
  | .ok a o =>
    match (place? a).bind o.at? with
    | some part => rest part
    | none => []
  | .error _ _ => []

def read (ctx : Context) (o : Obj) (s : Segment) : List Segment → List Event
  | [] =>
    resolve ctx o ++
      match ctx.adapter o with
      | .ok a => access a o s
      | .error _ => []
  | next :: rest =>
    resolve ctx o ++
      match ctx.adapter o with
      | .ok a =>
        access a o s ++
          match a.read ctx o s with
          | .ok (some v) => read ctx v.obj next rest
          | _ => []
      | .error _ => []

def borrow (ctx : Context) (o : Obj) (s : Segment) : List Segment → List Event
  | [] =>
    resolve ctx o ++
      match ctx.adapter o with
      | .ok a => access a o s
      | .error _ => []
  | next :: rest =>
    resolve ctx o ++
      match ctx.adapter o with
      | .ok a =>
        access a o s ++ lent (a.borrow ctx s o) id fun part => borrow ctx part next rest
      | .error _ => []

def write (ctx : Context) (creates : Bool) (o : Obj) (s : Segment) :
    List Segment → List Event
  | [] =>
    resolve ctx o ++
      match ctx.adapter o with
      | .ok a => access a o s
      | .error _ => []
  | next :: rest =>
    resolve ctx o ++
      match ctx.adapter o with
      | .ok a =>
        access a o s ++
          match a.read ctx o s with
          | .ok (some _) =>
            lent (a.borrow ctx s o) id fun part => write ctx creates part next rest
          | .ok none =>
            if creates then
              [.instantiating s.text o.typeName] ++ instantiate ctx a o s ++
                lent (a.instantiate ctx s o) some fun part => write ctx creates part next rest
            else []
          | .error _ => []
      | .error _ => []

def inspect (ctx : Context) (n : Navigator) (ask : Adapter → Obj → List Event) : List Event :=
  match n.obj? with
  | none => []
  | some o =>
    resolve ctx o ++
      match ctx.adapter o with
      | .ok a => ask a o
      | .error cause => [.cannotInspect o.typeName cause]

def readPath (ctx : Context) (n : Navigator) (p : Path) : List Event :=
  match n.obj? with
  | some o => read ctx o p.first p.rest
  | none => []

/-- The events of borrowing along a path from a navigator's object. -/
def borrowPath (ctx : Context) (n : Navigator) (p : Path) : List Event :=
  match n.changeable? with
  | some o => borrow ctx o p.first p.rest
  | none => []

def writePath (ctx : Context) (n : Navigator) (p : Path) (v : Option Obj) : List Event :=
  match n.changeable? with
  | some o => write ctx v.isSome o p.first p.rest
  | none => []

def resolveAny (ctx : Context) : Option Obj → List Event
  | some o => resolve ctx o
  | none => []

end Trace

inductive Level where
  | trace
  | debug
  | warn
deriving DecidableEq, Repr

def Level.name : Level → String
  | .trace => "TRACE"
  | .debug => "DEBUG"
  | .warn => "WARN"

structure Record where
  level : Level
  message : String

namespace Reflector

def builtRecord (d : Descriptor) : Record :=
  ⟨.debug, "built descriptor for `" ++ d.ty.name ++ "`: " ++ toString d.getters.length
    ++ " getter(s), " ++ toString d.setters.length ++ " setter(s)"⟩

/-- The cache after an event, and the line that tells of it. A type is described only once. -/
def record (s : Schema) (r : Reflector) : Event → Reflector × List Record
  | .adaptsItself type => (r, [⟨.trace, "`" ++ type ++ "` adapts itself"⟩])
  | .usesFactory type => (r, [⟨.trace, "`" ++ type ++ "` uses a factory adapter"⟩])
  | .described t =>
    ((r.forType s t).1, if (r.find? t).isSome then [] else [builtRecord (r.build s t)])
  | .instantiating segment type =>
    (r, [⟨.debug, "instantiating missing `" ++ segment ++ "` on `" ++ type ++ "`"⟩])
  | .created type key => (r, [⟨.trace, "created `" ++ type ++ "` for key `" ++ key ++ "`"⟩])
  | .cannotInspect type cause =>
    (r, [⟨.warn, "cannot inspect `" ++ type ++ "`: " ++ cause.message⟩])

def recordAll (s : Schema) (r : Reflector) : List Event → Reflector × List Record
  | [] => (r, [])
  | e :: rest =>
    let (r, lines) := r.record s e
    let (r, more) := recordAll s r rest
    (r, lines ++ more)

end Reflector

end ObjectGraph
