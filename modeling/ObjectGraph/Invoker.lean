import ObjectGraph.Class

/-!
Invokers: a property bound to the member that serves it, a field or a method of the object's class
or of an embedded parent, together with the steps to that parent. A property that is read by a
method can be changed in place only through a companion method or a field of the property's name.
-/

set_option autoImplicit false
namespace ObjectGraph

/-- How the value of a property that a method reads is reached for a change in place. -/
inductive MutablePath where
  | companion (method : Method)
  | field (field : Field)
  | none

inductive Member where
  | field (field : Field)
  | method (method : Method) (mutablePath : MutablePath)

/-- A property bound to a member of the class `target`, which the steps of the route lead to. -/
structure Invoker where
  property : String
  route : List Upcast
  target : Target
  member : Member

namespace Invoker

def name (i : Invoker) : String :=
  match i.member with
  | .field f => f.name
  | .method m _ => m.name

def valueType (i : Invoker) : Ty :=
  match i.member with
  | .field f => f.ty
  | .method m _ => m.ty

def nullable (i : Invoker) : Bool :=
  match i.member with
  | .field f => f.nullable
  | .method m _ => m.nullable

def inherited (i : Invoker) : Bool :=
  !i.route.isEmpty

def canBorrow (i : Invoker) : Bool :=
  match i.member with
  | .method _ .none => false
  | _ => true

def failed (i : Invoker) (action : Action) (type : String) (cause : InvokeError) : AccessError :=
  .propertyAccessFailed action type i.property cause

def ensureBorrowable (i : Invoker) (type : String) : Except AccessError Unit :=
  if i.canBorrow then .ok () else .error (i.failed .borrow type (.noMutableAccess i.name))

def onOwner {α : Type} (i : Invoker) (edit : Edit InvokeError α) : Edit InvokeError α := do
  let owner ← Edit.ofExcept (Upcast.follow i.route (← get))
  Edit.inside (Upcast.place i.route) owner edit

def readMember (i : Invoker) (owner : Obj) : Except InvokeError (Option Value) :=
  match i.member with
  | .field f => return (← f.read i.target owner).map Value.shared
  | .method m _ => m.callGet i.target owner

def borrowMember (i : Invoker) : Edit InvokeError (Option Place) :=
  match i.member with
  | .field f => f.borrow i.target
  | .method _ (.companion c) => c.callBorrow i.target
  | .method _ (.field f) => f.borrow i.target
  | .method m .none => throw (.noMutableAccess m.name)

def writeMember (i : Invoker) (v : Option Obj) : Edit InvokeError Unit :=
  match i.member with
  | .field f => f.write i.target v
  | .method m _ => m.callSet i.target v

def read (i : Invoker) (o : Obj) : Except AccessError (Option Value) :=
  (do i.readMember (← Upcast.follow i.route o)).mapError (i.failed .get o.typeName)

/-- Borrows the property's value: the place of it in the object. -/
def borrow (i : Invoker) : Edit AccessError (Option Place) := do
  let o ← get
  let place ← Edit.mapError (i.failed .borrow o.typeName) (i.onOwner i.borrowMember)
  return place.map (Upcast.place i.route ++ ·)

def write (i : Invoker) (v : Option Obj) : Edit AccessError Unit := do
  let o ← get
  Edit.mapError (i.failed .set o.typeName) (i.onOwner (i.writeMember v))

end Invoker

end ObjectGraph
