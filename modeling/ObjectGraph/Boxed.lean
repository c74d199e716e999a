import ObjectGraph.Class
import ObjectGraph.Container

/-!
Boxes, in which objects are handed over. The box of an open slot is an object in its turn, which may be
put into a box again; every question to it is passed on to the object inside. A slot of any object takes a
box as it is, a slot of a shape opens the object by its kind and closes it again if the kind is another,
and a slot of a concrete type takes the object out of its boxes or gives the box back.
-/

set_option autoImplicit false
namespace ObjectGraph

inductive Boxed where
  | bare (o : Obj)
  | object (inner : Boxed)
  | list (list : ListView)
  | map (map : MapView)
  | set (set : SetView)

namespace Boxed

def content : Boxed → Obj
  | bare o => o
  | object inner => inner.content
  | list l => l.obj
  | map m => m.obj
  | set s => s.obj

/-- The object inside, opened by its kind. -/
def opened : Boxed → View
  | bare o => o.view
  | object inner => inner.opened
  | list l => .list l
  | map m => .map m
  | set s => .set s

def copy : Boxed → Boxed
  | bare o => bare o
  | object inner => inner.copy
  | list l => bare l.obj
  | map m => bare m.obj
  | set s => bare s.obj

def isOf (t : Ty) (b : Boxed) : Bool :=
  b.content.ty == t

/-- Takes the object of a concrete type out of its boxes, or gives them back. -/
def downcast (t : Ty) (b : Boxed) : Except Boxed Obj :=
  if b.isOf t then .ok b.content else .error b

end Boxed

namespace View

def closed (v : View) : Boxed :=
  .bare v.obj

/-- The box of a slot of the shape, if the object is of its kind. -/
def boxedAs? : Shape → View → Option Boxed
  | .list, .list l => some (.list l)
  | .map, .map m => some (.map m)
  | .set, .set s => some (.set s)
  | _, _ => none

end View

/-- Hands a box over to a slot of the type, or back. -/
def Ty.receive (t : Ty) (b : Boxed) : Except Boxed Boxed :=
  match t with
  | .any => .ok (.object b)
  | .shaped shape =>
    match b.opened.boxedAs? shape with
    | some made => .ok made
    | none => .error b.opened.closed
  | concrete => (b.downcast concrete).map .bare

def Ty.receiveLent (t : Ty) (b : Boxed) : Except Boxed Boxed :=
  if b.isOf t then .ok (.bare b.content) else t.receive b.copy

def Value.take (v : Value) (t : Ty) : Except Boxed Boxed :=
  if v.owned then t.receive (.bare v.obj) else t.receiveLent (.bare v.obj)

end ObjectGraph
