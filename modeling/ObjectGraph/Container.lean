import ObjectGraph.Obj.Parts
import ObjectGraph.Error

/-!
Containers. A view of an object opens it by its kind, and closing the view gives the object back.
Lists and arrays are read and written by position, maps by the path form of a key, sets by member.
A write that a container refuses leaves it as it was; a position is checked before the element, and
a key before the value.
-/

set_option autoImplicit false
namespace ObjectGraph

def Ty.element (t : Ty) (o : Obj) : Except ElementError Obj :=
  match t.convert o with
  | .ok o => .ok o
  | .error o => .error (.incompatible t.slotName o.typeName)

structure ListView where
  kind : ListKind
  item : Ty
  items : List Obj

structure ArrayView where
  kind : ArrayKind
  item : Ty
  items : List Obj

structure MapView where
  kind : MapKind
  key : KeyType
  value : Ty
  entries : Entries

structure SetView where
  kind : SetKind
  item : Ty
  members : Members

/-- An object opened by its kind. -/
inductive View where
  | value (scalar : Scalar)
  | bean (type : String) (fields : Fields)
  | list (list : ListView)
  | array (array : ArrayView)
  | map (map : MapView)
  | set (set : SetView)

def Obj.view : Obj → View
  | .scalar s => .value s
  | .list kind item items => .list ⟨kind, item, items⟩
  | .array kind item items => .array ⟨kind, item, items⟩
  | .map kind key value entries => .map ⟨kind, key, value, entries⟩
  | .set kind item members => .set ⟨kind, item, members⟩
  | .bean type fields => .bean type fields

def ListView.obj (l : ListView) : Obj := .list l.kind l.item l.items

def ArrayView.obj (a : ArrayView) : Obj := .array a.kind a.item a.items

def MapView.obj (m : MapView) : Obj := .map m.kind m.key m.value m.entries

def SetView.obj (s : SetView) : Obj := .set s.kind s.item s.members

def View.obj : View → Obj
  | .value s => .scalar s
  | .bean type fields => .bean type fields
  | .list l => l.obj
  | .array a => a.obj
  | .map m => m.obj
  | .set s => s.obj

@[simp] theorem Obj.obj_view (o : Obj) : o.view.obj = o := by
  cases o <;> rfl

def replaceItem (item : Ty) (items : List Obj) (i : Nat) (o : Obj) :
    Except ElementError (List Obj) :=
  if i < items.length then (item.element o).map fun o => items.set i o
  else .error (.outOfRange i items.length)

namespace ListView

def get? (l : ListView) (i : Nat) : Option Obj := l.items[i]?

def set (l : ListView) (i : Nat) (o : Obj) : Except ElementError ListView :=
  (replaceItem l.item l.items i o).map fun items => { l with items }

def push (l : ListView) (o : Obj) : Except ElementError ListView :=
  (l.item.element o).map fun o => { l with items := l.items ++ [o] }

end ListView

namespace ArrayView

def get? (a : ArrayView) (i : Nat) : Option Obj := a.items[i]?

def set (a : ArrayView) (i : Nat) (o : Obj) : Except ElementError ArrayView :=
  (replaceItem a.item a.items i o).map fun items => { a with items }

end ArrayView

namespace MapView

def size (m : MapView) : Nat := m.entries.length

def get? (m : MapView) (key : String) : Option Obj :=
  match Key.read? m.key key with
  | some k => Entries.get? k m.entries
  | none => none

def containsKey (m : MapView) (key : String) : Bool :=
  (m.get? key).isSome

def insert (m : MapView) (key : String) (o : Obj) :
    Except ElementError (MapView × Option Obj) :=
  match Key.read? m.key key with
  | none => .error (.invalidKey m.key.name)
  | some k =>
    (m.value.element o).map fun o =>
      ({ m with entries := Entries.insert m.kind.before k o m.entries }, Entries.get? k m.entries)

def remove (m : MapView) (key : String) : MapView × Option Obj :=
  match Key.read? m.key key with
  | none => (m, none)
  | some k => ({ m with entries := Entries.erase k m.entries }, Entries.get? k m.entries)

def keys (m : MapView) : List String :=
  (Entries.keys m.entries).map Key.text

end MapView

namespace SetView

def size (s : SetView) : Nat := s.members.length

def contains (s : SetView) (o : Obj) : Bool :=
  o.ty == s.item && Members.has o s.members

def insert (s : SetView) (o : Obj) : Except ElementError (SetView × Bool) :=
  (s.item.element o).map fun o =>
    ({ s with members := Members.insert o s.members }, !Members.has o s.members)

def remove (s : SetView) (o : Obj) : SetView × Bool :=
  if s.contains o then ({ s with members := Members.erase o s.members }, true) else (s, false)

end SetView

end ObjectGraph
