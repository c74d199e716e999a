import ObjectGraph.Boxed
import ObjectGraph.Navigation

/-!
Navigators: an object together with what may be done to it. A writable object can be changed, an
owned one too, since it stands on its own; a shared one can only be read, and an absent one answers
every question with nothing.
-/

set_option autoImplicit false
namespace ObjectGraph

inductive Navigator where
  | absent
  | readOnly (obj : Obj)
  | writable (obj : Obj)
  | owned (obj : Obj)

namespace Navigator

def obj? : Navigator → Option Obj
  | absent => none
  | readOnly o | writable o | owned o => some o

def changeable? : Navigator → Option Obj
  | absent | readOnly _ => none
  | writable o | owned o => some o

def withObj : Navigator → Obj → Navigator
  | absent, _ => absent
  | readOnly _, o => readOnly o
  | writable _, o => writable o
  | owned _, o => owned o

def isAbsent (n : Navigator) : Bool :=
  n.obj?.isNone

def typeName (n : Navigator) : String :=
  (n.obj?.map Obj.typeName).getD absentName

def ofValue : Option Value → Navigator
  | none => absent
  | some v => if v.owned then owned v.obj else readOnly v.obj

def ofOption : Option Obj → Navigator
  | none => absent
  | some o => writable o

def read (n : Navigator) (ctx : Context) (p : Path) : Except AccessError (Option Value) :=
  match n.obj? with
  | some o => ctx.readPath o p
  | none => .ok none

def readAs (n : Navigator) (ctx : Context) (path : String) (t : Ty) :
    Except AccessError (Option Obj) := do
  match ← n.read ctx (.ofString path) with
  | none => return none
  | some v =>
    match v.take t with
    | .ok taken => return some taken.content
    | .error found =>
      throw (.incompatibleValue path n.typeName (.incompatible t.name found.content.typeName))

def edit {α : Type} (n : Navigator) (operation : String) (action : Edit AccessError α) :
    Navigator × Except AccessError α :=
  match n.changeable? with
  | none => (n, .error (.unsupported n.typeName operation))
  | some o =>
    match action o with
    | .ok a o' => (n.withObj o', .ok a)
    | .error e o' => (n.withObj o', .error e)

/-- Lends the part that a path leads to; nothing if the object may not be changed. -/
def borrow (n : Navigator) (ctx : Context) (p : Path) :
    Navigator × Except AccessError (Option Place) :=
  match n.changeable? with
  | none => (n, .ok none)
  | some _ => n.edit "writes" (ctx.borrowPath p)

def write (n : Navigator) (ctx : Context) (p : Path) (v : Option Obj) :
    Navigator × Except AccessError Unit :=
  n.edit "writes" (ctx.writePath p v)

def add (n : Navigator) (ctx : Context) (element : Obj) : Navigator × Except AccessError Unit :=
  n.edit "add" do (← Edit.ofExcept (ctx.adapter (← get))).add element

def addAll (n : Navigator) (ctx : Context) (elements : List Obj) :
    Navigator × Except AccessError Unit :=
  n.edit "add_all" do (← Edit.ofExcept (ctx.adapter (← get))).addAll elements

def child (n : Navigator) (ctx : Context) (p : Path) : Except AccessError Navigator :=
  (n.read ctx p).map ofValue

def part? (n : Navigator) (place : Place) : Option Obj :=
  n.obj?.bind (·.at? place)

def withPart (n : Navigator) (place : Place) (part : Obj) : Navigator :=
  match n.obj? with
  | some o => n.withObj (o.replaceAt place part)
  | none => n

/-- Asks the object's adapter; an absent object and one without an adapter give the answer that
there is nothing. -/
def inspect {α : Type} (n : Navigator) (ctx : Context) (nothing : α) (ask : Adapter → Obj → α) :
    α :=
  match n.obj? with
  | none => nothing
  | some o =>
    match ctx.adapter o with
    | .ok a => ask a o
    | .error _ => nothing

def getterNames (n : Navigator) (ctx : Context) : List String :=
  n.inspect ctx [] fun a o => a.getterNames ctx o

def setterNames (n : Navigator) (ctx : Context) : List String :=
  n.inspect ctx [] fun a o => a.setterNames ctx o

def getterType? (n : Navigator) (ctx : Context) (name : String) : Option Ty :=
  n.inspect ctx none fun a o => a.getterType? ctx o name

def setterType? (n : Navigator) (ctx : Context) (name : String) : Option Ty :=
  n.inspect ctx none fun a o => a.setterType? ctx o name

def hasGetter (n : Navigator) (ctx : Context) (name : String) : Bool :=
  n.inspect ctx false fun a o => a.hasGetter ctx o name

def hasSetter (n : Navigator) (ctx : Context) (name : String) : Bool :=
  n.inspect ctx false fun a o => a.hasSetter ctx o name

def isCollection (n : Navigator) (ctx : Context) : Bool :=
  n.obj?.any fun o => ctx.objects.isCollection o.ty

end Navigator

end ObjectGraph
