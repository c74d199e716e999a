import ObjectGraph.Adapter.Indexed

/-!
Access by the members of an object's class. A plain segment names a property; a segment with a key
names a property whose value is indexed, or, with an empty name, indexes the object itself.
-/

set_option autoImplicit false
namespace ObjectGraph

def absentName : String := "none"

/-- Acts on what a place lends and tells where the result sits in the whole. -/
def Edit.lent {ε α : Type} (place : Place) (edit : Edit ε α) (missing : Edit ε α) :
    Edit ε α := do
  match (← get).at? place with
  | some part => Edit.inside place part edit
  | none => missing

namespace BeanAccess

def container (ctx : Context) (o : Obj) (s : Segment) : Except AccessError (Option Value) :=
  if s.name = "" then .ok (some (.shared o))
  else do (← (ctx.descriptorOf o).getter s.name).read o

def containerPlace (ctx : Context) (s : Segment) : Edit AccessError (Option Place) := do
  if s.name = "" then return some []
  let i ← Edit.ofExcept ((ctx.descriptorOf (← get)).getter s.name)
  i.borrow

def existingContainer (ctx : Context) (s : Segment) : Edit AccessError Place := do
  match ← containerPlace ctx s with
  | some place => return place
  | none => throw (s.notIndexable absentName)

def read (ctx : Context) (o : Obj) (s : Segment) : Except AccessError (Option Value) := do
  if s.isIndexed then
    match ← container ctx o s with
    | some container => Indexed.read container s
    | none => return none
  else
    (← (ctx.descriptorOf o).getter s.name).read o

def borrow (ctx : Context) (s : Segment) : Edit AccessError (Option Place) := do
  if s.isIndexed then
    match ← containerPlace ctx s with
    | some place =>
      return (← Edit.lent place (Indexed.borrow s) (return none)).map (place ++ ·)
    | none => return none
  else
    (← Edit.ofExcept ((ctx.descriptorOf (← get)).getter s.name)).borrow

def write (ctx : Context) (s : Segment) (v : Option Obj) : Edit AccessError Unit := do
  if s.isIndexed then
    let place ← existingContainer ctx s
    Edit.lent place (Indexed.write s v) (throw (s.notIndexable absentName))
  else
    (← Edit.ofExcept ((ctx.descriptorOf (← get)).setter s.name)).write v

def getterNames (ctx : Context) (o : Obj) : List String :=
  (ctx.descriptorOf o).getterNames

def setterNames (ctx : Context) (o : Obj) : List String :=
  (ctx.descriptorOf o).setterNames

/-- The declared type of the elements of the container that the segment's key looks into. -/
def elementType? (ctx : Context) (o : Obj) (s : Segment) : Option Ty :=
  match container ctx o s with
  | .ok (some container) => (Indexed.elementType container.obj s).toOption
  | _ => none

def isIndexable (ctx : Context) (o : Obj) (s : Segment) : Bool :=
  if s.name = "" then o.isIndexable else (ctx.descriptorOf o).hasGetter s.name

def onlySegment? (name : String) : Option Segment :=
  let path := Path.ofString name
  if path.rest.isEmpty then some path.first else none

def getterType? (ctx : Context) (o : Obj) (name : String) : Option Ty :=
  (onlySegment? name).bind fun s =>
    if s.isIndexed then elementType? ctx o s else (ctx.descriptorOf o).getterType? name

def setterType? (ctx : Context) (o : Obj) (name : String) : Option Ty :=
  (onlySegment? name).bind fun s =>
    if s.isIndexed then elementType? ctx o s else (ctx.descriptorOf o).setterType? name

def hasGetter (ctx : Context) (o : Obj) (name : String) : Bool :=
  (onlySegment? name).any fun s =>
    if s.isIndexed then isIndexable ctx o s else (ctx.descriptorOf o).hasGetter name

def hasSetter (ctx : Context) (o : Obj) (name : String) : Bool :=
  (onlySegment? name).any fun s =>
    if s.isIndexed then isIndexable ctx o s else (ctx.descriptorOf o).hasSetter name

/-- Makes the missing value of a property, stores it and lends it. It has to be clear beforehand
that the value can be stored and lent. -/
def instantiateProperty (ctx : Context) (s : Segment) : Edit AccessError Place := do
  let o ← get
  let descriptor := ctx.descriptorOf o
  let setter ← Edit.ofExcept (descriptor.setter s.name)
  let getter ← Edit.ofExcept (descriptor.getter s.name)
  Edit.ofExcept (getter.ensureBorrowable o.typeName)
  let created ← Edit.ofExcept (ctx.createMissing o s s.name setter.valueType)
  setter.write (some created)
  match ← getter.borrow with
  | some place => return place
  | none => throw (.notBorrowable s.text o.typeName s.name)

def instantiate (ctx : Context) (s : Segment) : Edit AccessError Place := do
  if s.isIndexed then
    let place ← existingContainer ctx s
    return place ++ (← Edit.lent place (Indexed.instantiate ctx s)
      (throw (s.notIndexable absentName)))
  else instantiateProperty ctx s

end BeanAccess

end ObjectGraph
