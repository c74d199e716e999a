import ObjectGraph.Descriptor
import ObjectGraph.Schema

/-!
Caches of descriptors. A reflector makes the descriptor of a type when it is first asked for it and
hands out the same one from then on. Descriptors are handed out to be shared: one is told apart from
another that says the same by the number it was given when it was made.
-/

set_option autoImplicit false
namespace ObjectGraph

/-- A descriptor, and its number among those that one reflector made. -/
structure SharedDescriptor where
  number : Nat
  descriptor : Descriptor

/-- Descriptors by type, made under one namer. -/
structure Reflector where
  namer : PropertyNamer
  made : Nat
  cache : List (Ty × SharedDescriptor)

namespace Reflector

def withNamer (namer : PropertyNamer) : Reflector := ⟨namer, 0, []⟩

def find? (r : Reflector) (t : Ty) : Option SharedDescriptor :=
  r.cache.lookup t

def build (s : Schema) (r : Reflector) (t : Ty) : Descriptor :=
  .build r.namer t (s.lineage? t)

/-- Keeps a descriptor that was made for a type, unless the type has come to have one since. -/
def keep (r : Reflector) (t : Ty) (built : Descriptor) : Reflector × SharedDescriptor :=
  match r.find? t with
  | some existing => (r, existing)
  | none =>
    let shared : SharedDescriptor := ⟨r.made, built⟩
    ({ r with made := r.made + 1, cache := (t, shared) :: r.cache }, shared)

def forType (s : Schema) (r : Reflector) (t : Ty) : Reflector × SharedDescriptor :=
  match r.find? t with
  | some d => (r, d)
  | none => r.keep t (r.build s t)

def forObject (s : Schema) (r : Reflector) (o : Obj) : Reflector × SharedDescriptor :=
  r.forType s o.ty

def size (r : Reflector) : Nat := r.cache.length

def isEmpty (r : Reflector) : Bool := r.size == 0

end Reflector

end ObjectGraph
