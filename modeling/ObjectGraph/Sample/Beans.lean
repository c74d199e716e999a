import ObjectGraph.Bean
import ObjectGraph.Ty.Tag

/-!
The sample bean types, declared slot by slot: people and their addresses, parts of an assembly, a
shop with orders, and beans whose accessors disagree with their fields in every way that the rules
for properties allow.
-/

set_option autoImplicit false
namespace ObjectGraph.Sample

open SlotDecl (always maybe)

def bean (name : String) : Ty := .bean ("fx::" ++ name)

def vec (item : Ty) : Ty := .list .vec item

def table (value : Ty) : Ty := .map .hash .str value

def plain (name : String) (slots : List SlotDecl) : BeanDecl :=
  ⟨"fx::" ++ name, name, slots, true, false, false⟩

def withoutDefault (d : BeanDecl) : BeanDecl := { d with hasDefault := false }

def shown (d : BeanDecl) : BeanDecl := { d with showsFields := true }

def compared (d : BeanDecl) : BeanDecl := { d with comparable := true }

def shapesSlots : List SlotDecl := [
  always "addr" (bean "Address"),
  maybe "opt" (bean "Address"),
  always "URL" .str,
  always "items" (vec .str),
  always "thing" (bean "Address"),
  (always "count" (.int .u32)).asHidden,
  maybe "gate" (bean "Address"),
  always "ok" .bool,
  maybe "text" .str,
  always "ignored" (.int .u8),
  always "private" (.int .u8),
  always "pair" (.int .u8),
  always "serialVersionUID" (.int .u8),
  always "class" (.int .u8)]

def bagSlots : List SlotDecl := [
  always "deque" (.list .deque (.int .u8)),
  always "boxed" (.array .slice (.int .i64)),
  always "imap" (.map .sorted (.int .i32) .str),
  always "cmap" (.map .sorted .char (.int .i32)),
  always "hb" (.map .swiss .str .any),
  always "hset" (.set .hash .str),
  always "bset" (.set .sorted (.int .i32)),
  always "any" .any,
  always "list" (.shaped .list),
  always "map" (.shaped .map),
  always "set" (.shaped .set),
  maybe "opt_any" .any,
  maybe "opt_list" (.shaped .list),
  maybe "opt_map" (.shaped .map),
  maybe "opt_set" (.shaped .set),
  maybe "opt_vec" (vec (bean "Address")),
  maybe "opt_arr" (.array (.fixed 3) (.int .i32)),
  always "table" (table (vec (bean "Address"))),
  always "nested" (table (table (.int .i32))),
  always "rows" (vec (vec (.int .i32)))]

def scalarSlots : List SlotDecl := [
  always "b" .bool,
  always "c" (.scalar .char),
  always "u8" (.int .u8),
  always "u16" (.int .u16),
  always "u32" (.int .u32),
  always "u64" (.int .u64),
  always "u128" (.int .u128),
  always "usize" (.int .usize),
  always "i8" (.int .i8),
  always "i16" (.int .i16),
  always "i32" (.int .i32),
  always "i64" (.int .i64),
  always "i128" (.int .i128),
  always "isize" (.int .isize),
  always "f32" (.scalar .f32),
  always "f64" (.scalar .f64),
  always "s" .str,
  maybe "o" (.int .i32)]

/-- All sample beans; each one stands after those that its slots always hold. -/
def declarations : List BeanDecl := [
  shown (compared (plain "Address" [maybe "city" .str, always "zip" (.int .u32)])),
  plain "User" [
    always "name" .str,
    maybe "address" (bean "Address"),
    always "attributes" (table .any),
    always "tags" (.array (.fixed 2) .str),
    always "scores" (vec (.int .i32)),
    maybe "nick" .str],
  plain "Person" [always "name" .str, always "age" (.int .u32)],
  plain "Employee" [
    (always "person" (bean "Person")).asParent,
    always "home" (bean "Address"),
    always "active" .bool,
    always "level" (.int .u8)],
  plain "Manager" [
    (always "employee" (bean "Employee")).asParent,
    always "reports" (vec (bean "Employee")),
    maybe "age" .str],
  plain "Holder" [(maybe "slot" (bean "Address")).asHidden],
  withoutDefault (plain "Part" [always "weight" (.int .u32)]),
  plain "Assembly" [
    maybe "first" (bean "Part"),
    maybe "second" (bean "Part"),
    always "list" (vec (bean "Part")),
    always "map" (table (bean "Part"))],
  plain "Secret" [
    (always "token" .str).asReadonly,
    (always "inner" (bean "Address")).asReadonly,
    (maybe "maybe" (bean "Address")).asReadonly,
    (always "list" (vec (.int .i32))).asReadonly,
    (always "hidden" (.int .u8)).asHidden],
  shown (withoutDefault (plain "Account" [
    always "owner" .str,
    always "balance" (.int .i64),
    maybe "tag" .str])),
  plain "Both" [always "value" (.int .i32)],
  plain "Wrap" [
    maybe "both" (bean "Both"),
    maybe "account" (bean "Account"),
    maybe "user" (bean "User")],
  plain "Shapes" shapesSlots,
  plain "Dropper" [
    (maybe "slot" (bean "Address")).asHidden,
    (always "calls" (.int .u32)).asHidden],
  withoutDefault (plain "Bag" bagSlots),
  plain "Item" [always "name" .str, always "price" (.scalar .f64), always "r#type" (.int .u8)],
  plain "Order" [
    always "id" (.int .u64),
    always "items" (vec (bean "Item")),
    maybe "note" .str,
    maybe "buyer" (bean "User")],
  plain "Shop" [
    always "orders" (vec (bean "Order")),
    always "by_name" (table (bean "Order")),
    always "fixed" (.array (.fixed 2) (bean "Order"))],
  plain "Tree" [
    always "value" (.int .i32),
    maybe "next" .any,
    always "children" (vec (bean "Tree")),
    always "kids" (.map .sorted .str (bean "Tree"))],
  plain "SelfMap" [always "name" .str],
  plain "Echo" [always "value" (.int .i32)],
  plain "EchoHolder" [
    always "echo" (bean "Echo"),
    always "selfmap" (bean "SelfMap"),
    maybe "opt" (bean "Echo")],
  plain "Base" [
    always "code" (.int .i32),
    always "label" .str,
    maybe "extra" (bean "Address"),
    (always "fixed" (.int .u8)).asReadonly],
  shown (withoutDefault (plain "Option2" [always "inner" (.int .u8)])),
  plain "Derived" [
    (always "base" (bean "Base")).asParent,
    always "label" .str,
    maybe "code" .str,
    always "fixed" (.int .u8)],
  plain "Leaf" [(always "derived" (bean "Derived")).asParent, maybe "extra" (bean "Part")],
  plain "Empty" [],
  shown (compared (plain "Scalars" scalarSlots)),
  { plain "Odd" [always "a" (.int .i32), always "b" (.int .i32)] with className := "OddClass" }]

def declaration? (type : String) : Option BeanDecl :=
  declarations.find? (·.type == type)

def ofTag? (tag : String) : Option Ty :=
  Ty.ofTag? (fun name => if (declaration? ("fx::" ++ name)).isSome then some (bean name) else none) tag

def layouts : Layouts := fun type => (declaration? type).map BeanDecl.layout

/-- A value for a slot that must not stay empty, given such values for beans: zero, nothing or
empty, and arrays filled with such values. -/
def blankWith (beans : List (String × Obj)) : Ty → Obj
  | .scalar t => .scalar t.default
  | .list kind item => .list kind item []
  | .array (.fixed n) item => .array (.fixed n) item (List.replicate n (blankWith beans item))
  | .array .slice item => .array .slice item []
  | .map kind key value => .map kind key value []
  | .set kind item => .set kind item []
  | .bean type => (beans.lookup type).getD (.bean type [])
  | .any => .int .i32 0
  | .shaped .list => .list .vec (.int .i32) []
  | .shaped .map => .map .sorted .str (.int .i64) []
  | .shaped .set => .set .sorted .str []
  | .shaped .sortedSet => .set .sorted .str []

/-- A bean whose slots are blank or, where they may be, absent. -/
def blankBean (beans : List (String × Obj)) (d : BeanDecl) : Obj :=
  .bean d.type (d.slots.map fun slot =>
    (slot.name, if slot.nullable then none else some (blankWith beans slot.ty)))

def blankBeans : List (String × Obj) :=
  declarations.foldl (fun beans d => beans ++ [(d.type, blankBean beans d)]) []

def blank (t : Ty) : Obj :=
  blankWith blankBeans t

end ObjectGraph.Sample
