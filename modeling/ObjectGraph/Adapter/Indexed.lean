import ObjectGraph.Container
import ObjectGraph.Context

/-!
Access by the key of a segment to a container that has been found: maps by key, lists and arrays by
position. Nothing else can be indexed. A missing key of a map reads as absent, a position outside a
sequence is an error.
-/

set_option autoImplicit false
namespace ObjectGraph

def Segment.position (s : Segment) (type : String) : Except AccessError Nat :=
  match IntType.usize.read? s.key with
  | some n => .ok n.toNat
  | none => .error (.invalidIndex s.text type s.key)

/-- How a container's refusal of an element reads as a failed access. -/
def Segment.rejected (s : Segment) (type : String) : ElementError → AccessError
  | .outOfRange index length => .indexOutOfRange s.text type index length
  | cause => .incompatibleValue s.text type cause

def Segment.notIndexable (s : Segment) (type : String) : AccessError :=
  .notIndexable s.text type

namespace Indexed

def positionSlot (s : Segment) (type : String) (length : Nat) :
    Except AccessError (Option Slot) := do
  let i ← s.position type
  if i < length then return some (.item i) else throw (.indexOutOfRange s.text type i length)

def slot? (container : Obj) (s : Segment) : Except AccessError (Option Slot) :=
  match container with
  | .map _ key _ entries =>
    match Key.read? key s.key with
    | some k => .ok ((Entries.get? k entries).map fun _ => .entry k)
    | none => .ok none
  | .list _ _ items => positionSlot s container.typeName items.length
  | .array _ _ items => positionSlot s container.typeName items.length
  | _ => .error (s.notIndexable container.typeName)

/-- Reads by key; a part of a detached container is detached. -/
def read (container : Value) (s : Segment) : Except AccessError (Option Value) := do
  let slot ← slot? container.obj s
  return (slot.bind container.obj.part?).map fun part => ⟨part, container.owned⟩

def borrow (s : Segment) : Edit AccessError (Option Place) := do
  let slot ← Edit.ofExcept (slot? (← get) s)
  return slot.map fun slot => [slot]

/-- Writes under the key; a write of nothing drops the entry of a map. -/
def write (s : Segment) (v : Option Obj) : Edit AccessError Unit := do
  let container ← get
  let type := container.typeName
  match container.view, v with
  | .map m, some o =>
    let (m, _) ← Edit.ofExcept ((m.insert s.key o).mapError (s.rejected type))
    set m.obj
  | .map m, none => set (m.remove s.key).1.obj
  | .list l, v =>
    let i ← Edit.ofExcept (s.position type)
    match v with
    | none => throw (.unsupported type "null elements")
    | some o => set (← Edit.ofExcept ((l.set i o).mapError (s.rejected type))).obj
  | .array a, v =>
    let i ← Edit.ofExcept (s.position type)
    match v with
    | none => throw (.unsupported type "null elements")
    | some o => set (← Edit.ofExcept ((a.set i o).mapError (s.rejected type))).obj
  | _, _ => throw (s.notIndexable type)

def elementType (container : Obj) (s : Segment) : Except AccessError Ty :=
  match container with
  | .map _ _ value _ => .ok value
  | .list _ item _ => .ok item
  | .array _ item _ => .ok item
  | _ => .error (s.notIndexable container.typeName)

def instantiate (ctx : Context) (s : Segment) : Edit AccessError Place := do
  let container ← get
  let type ← Edit.ofExcept (elementType container s)
  let created ← Edit.ofExcept (ctx.createMissing container s s.key type)
  write s (some created)
  match ← borrow s with
  | some place => return place
  | none => throw (s.notIndexable container.typeName)

end Indexed

end ObjectGraph
