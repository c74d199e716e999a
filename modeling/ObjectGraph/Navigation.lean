import ObjectGraph.Adapter

/-!
Walking paths. A read follows the segments of a path from object to object, each answered by the
adapter of the object it has reached; a part of a detached value is detached. A write walks to the
object before the last segment. Where it finds nothing on the way it makes the missing object,
unless nothing is to be written: then it leaves everything as it is.
-/

set_option autoImplicit false
namespace ObjectGraph
namespace Context

def readFrom (ctx : Context) (o : Obj) (s : Segment) :
    List Segment → Except AccessError (Option Value)
  | [] => do (← ctx.adapter o).read ctx o s
  | next :: rest => do
    match ← (← ctx.adapter o).read ctx o s with
    | none => return none
    | some v =>
      return (← readFrom ctx v.obj next rest).map fun w => ⟨w.obj, v.owned || w.owned⟩

def borrowFrom (ctx : Context) (s : Segment) : List Segment → Edit AccessError (Option Place)
  | [] => do
    (← Edit.ofExcept (ctx.adapter (← get))).borrow ctx s
  | next :: rest => do
    match ← (← Edit.ofExcept (ctx.adapter (← get))).borrow ctx s with
    | none => return none
    | some place =>
      return (← Edit.lent place (borrowFrom ctx next rest) (return none)).map (place ++ ·)

/-- Where the object sits that a segment leads to, made if it is missing; nothing if it is missing
and nothing is to be written. -/
def step (ctx : Context) (s : Segment) (creates : Bool) : Edit AccessError (Option Place) := do
  let o ← get
  let a ← Edit.ofExcept (ctx.adapter o)
  match ← Edit.ofExcept (a.read ctx o s) with
  | some _ =>
    match ← a.borrow ctx s with
    | some place => return some place
    | none => throw (.notBorrowable s.text o.typeName s.name)
  | none => if creates then return some (← a.instantiate ctx s) else return none

def writeFrom (ctx : Context) (v : Option Obj) (s : Segment) :
    List Segment → Edit AccessError Unit
  | [] => do
    (← Edit.ofExcept (ctx.adapter (← get))).write ctx s v
  | next :: rest => do
    match ← ctx.step s v.isSome with
    | none => return ()
    | some place =>
      Edit.lent place (writeFrom ctx v next rest) (return ())

def readPath (ctx : Context) (o : Obj) (p : Path) : Except AccessError (Option Value) :=
  ctx.readFrom o p.first p.rest

def borrowPath (ctx : Context) (p : Path) : Edit AccessError (Option Place) :=
  ctx.borrowFrom p.first p.rest

def writePath (ctx : Context) (p : Path) (v : Option Obj) : Edit AccessError Unit :=
  ctx.writeFrom v p.first p.rest

end Context

end ObjectGraph
