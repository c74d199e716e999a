import ObjectGraph.Adapter.Bean

/-!
Access by the keys of a map. A plain segment is a key of the map; a segment with a key of its own
looks into the container that stands under its name, or, with an empty name, into the map itself.
A missing value of a map that holds anything is made as a map.
-/

set_option autoImplicit false
namespace ObjectGraph
namespace MapAccess

def asMap (o : Obj) (operation : String) : Except AccessError MapView :=
  match o.view with
  | .map m => .ok m
  | _ => .error (.unsupportedBy o operation)

def keyPlace (m : MapView) (key : String) : Option Place :=
  match Key.read? m.key key with
  | some k => (Entries.get? k m.entries).map fun _ => [.entry k]
  | none => none

def container (o : Obj) (s : Segment) : Except AccessError (Option Obj) :=
  if s.name = "" then .ok (some o)
  else return (← asMap o "property reads").get? s.name

def containerPlace (s : Segment) : Edit AccessError (Option Place) := do
  if s.name = "" then return some []
  return keyPlace (← Edit.ofExcept (asMap (← get) "property writes")) s.name

def existingContainer (s : Segment) : Edit AccessError Place := do
  match ← containerPlace s with
  | some place => return place
  | none => throw (s.notIndexable absentName)

def read (o : Obj) (s : Segment) : Except AccessError (Option Value) := do
  if s.isIndexed then
    match ← container o s with
    | some container => Indexed.read (.shared container) s
    | none => return none
  else
    return ((← asMap o "property reads").get? s.name).map Value.shared

def borrow (s : Segment) : Edit AccessError (Option Place) := do
  if s.isIndexed then
    match ← containerPlace s with
    | some place =>
      return (← Edit.lent place (Indexed.borrow s) (return none)).map (place ++ ·)
    | none => return none
  else
    return keyPlace (← Edit.ofExcept (asMap (← get) "property writes")) s.name

def writeKey (s : Segment) (v : Option Obj) : Edit AccessError Unit := do
  let o ← get
  let m ← Edit.ofExcept (asMap o "property writes")
  match v with
  | some v =>
    let (m, _) ← Edit.ofExcept ((m.insert s.name v).mapError (.incompatibleValue s.text o.typeName))
    set m.obj
  | none => set (m.remove s.name).1.obj

def write (s : Segment) (v : Option Obj) : Edit AccessError Unit := do
  if s.isIndexed then
    let place ← existingContainer s
    Edit.lent place (Indexed.write s v) (throw (s.notIndexable absentName))
  else writeKey s v

/-- The keys of a map, sorted as strings. -/
def names (o : Obj) : List String :=
  match o.view with
  | .map m => m.keys.mergeSort fun a b => decide (a ≤ b)
  | _ => []

def valueType? (o : Obj) : Option Ty :=
  match o.view with
  | .map m => some m.value
  | _ => none

def missingType : Ty → Ty
  | .any => .shaped .map
  | t => t

def instantiateKey (ctx : Context) (s : Segment) : Edit AccessError Place := do
  let o ← get
  match valueType? o with
  | none => throw (.unsupportedBy o "property writes")
  | some value =>
    let created ← Edit.ofExcept (ctx.createMissing o s s.name (missingType value))
    writeKey s (some created)
    match keyPlace (← Edit.ofExcept (asMap (← get) "property writes")) s.name with
    | some place => return place
    | none => throw (s.notIndexable o.typeName)

def instantiate (ctx : Context) (s : Segment) : Edit AccessError Place := do
  if s.isIndexed then
    let place ← existingContainer s
    return place ++ (← Edit.lent place (Indexed.instantiate ctx s)
      (throw (s.notIndexable absentName)))
  else instantiateKey ctx s

end MapAccess

end ObjectGraph
