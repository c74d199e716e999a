import ObjectGraph.Schema
import ObjectGraph.Container
import ObjectGraph.Decimal.Shortest

/-!
Comparison of objects by content. Which list, array, map or set holds the content makes no
difference, but a list is never an array. A bean whose layout is not comparable has no answer, and
a container has none if the first difference that it meets is an item without one.
-/

set_option autoImplicit false
namespace ObjectGraph

/-- Equality of scalars: of one type and value, floating-point numbers compared as numbers. -/
def Scalar.equals : Scalar → Scalar → Bool
  | .f32 a, .f32 b =>
    (Decimal.binary32.decode a.toNat).equals (Decimal.binary32.decode b.toNat)
  | .f64 a, .f64 b =>
    (Decimal.binary64.decode a.toNat).equals (Decimal.binary64.decode b.toNat)
  | a, b => a == b

def thenCompare (first : Option Bool) (rest : Option Bool) : Option Bool :=
  match first with
  | some true => rest
  | other => other

/-- The layouts as a derived equality sees them. It compares the beans in a bean by the equality of their
own type, whether or not they can be compared as objects. -/
def Layouts.derived (layouts : Layouts) : Layouts := fun type =>
  (layouts type).map fun l => { l with comparable := true }

mutual

/-- Whether two objects have the same content, if that can be said. -/
def Obj.compare? (layouts : Layouts) : Obj → Obj → Option Bool
  | .scalar a, .scalar b => some (a.equals b)
  | .scalar _, _ => some false
  | .list _ _ items, .list _ _ others =>
    if items.length = others.length then compareItems layouts items others else some false
  | .list _ _ _, _ => some false
  | .array _ _ items, .array _ _ others =>
    if items.length = others.length then compareItems layouts items others else some false
  | .array _ _ _, _ => some false
  | .map _ _ _ entries, .map kind key value others =>
    if entries.length = others.length then
      compareEntries layouts entries ⟨kind, key, value, others⟩
    else some false
  | .map _ _ _ _, _ => some false
  | .set _ _ members, .set kind item others =>
    some (members.length == others.length && members.all (SetView.contains ⟨kind, item, others⟩))
  | .set _ _ _, _ => some false
  | .bean type fields, .bean other others =>
    if ((layouts type).map Layout.comparable).getD false then
      some (type == other && compareFields layouts fields others)
    else none
  | .bean type _, _ => if ((layouts type).map Layout.comparable).getD false then some false else none

def compareItems (layouts : Layouts) : List Obj → List Obj → Option Bool
  | o :: items, p :: others =>
    thenCompare (o.compare? layouts p) (compareItems layouts items others)
  | _, _ => some true

/-- Compares the entries of a map with those of another one that are reached by the same path
forms of keys. -/
def compareEntries (layouts : Layouts) : List (Key × Obj) → MapView → Option Bool
  | [], _ => some true
  | (k, o) :: rest, other =>
    match other.get? k.text with
    | none => some false
    | some p => thenCompare (o.compare? layouts p) (compareEntries layouts rest other)

/-- Compares the fields of two beans of one type by the equality that is derived for it. -/
def compareFields (layouts : Layouts) :
    List (String × Option Obj) → List (String × Option Obj) → Bool
  | [], [] => true
  | (_, none) :: rest, (_, none) :: others => compareFields layouts rest others
  | (_, some o) :: rest, (_, some p) :: others =>
    o.compare? layouts.derived p == some true && compareFields layouts rest others
  | _, _ => false

end

end ObjectGraph
