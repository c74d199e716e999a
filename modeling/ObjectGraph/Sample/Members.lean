import ObjectGraph.Sample.Beans
import ObjectGraph.Obj.Printer

/-!
The methods and constructors of the sample beans.
-/

set_option autoImplicit false
namespace ObjectGraph.Sample

def slot? (o : Obj) (name : String) : Option Obj := o.part? (.field name)

def withSlot (o : Obj) (name : String) (v : Option Obj) : Obj :=
  match o with
  | .bean type fields => .bean type (Fields.set name v fields)
  | other => other

def intIn : Option Obj → Int
  | some (.scalar (.int _ n)) => n
  | _ => 0

def textIn : Option Obj → String
  | some (.scalar (.str s)) => s
  | _ => ""

def boolIn : Option Obj → Bool
  | some (.scalar (.bool b)) => b
  | _ => false

/-- An integer brought into the range of its type by leaving out the higher bits. -/
def wrapped (t : IntType) (n : Int) : Obj :=
  .int t (if t.isSigned then Int.bmod n (Nat.pow 2 t.bits) else n % Nat.pow 2 t.bits)

def address (city : Option String) (zip : Int) : Obj :=
  .bean "fx::Address" [("city", city.map Obj.str), ("zip", some (.int .u32 zip))]

def account (owner : String) (balance : Obj) (tag : Option Obj) : Obj :=
  .bean "fx::Account" [("owner", some (.str owner)), ("balance", some balance), ("tag", tag)]

def computes (name : String) (ty : Ty) (f : Obj → Obj) : Method :=
  ⟨name, ty, false, .getter fun o => some (.detached (f o))⟩

def mayCompute (name : String) (ty : Ty) (f : Obj → Option Obj) : Method :=
  ⟨name, ty, true, .getter fun o => (f o).map Value.detached⟩

def shows (name : String) (ty : Ty) (slot : String) : Method :=
  ⟨name, ty, false, .getter fun o => (slot? o slot).map Value.shared⟩

def mayShow (name : String) (ty : Ty) (slot : String) : Method :=
  ⟨name, ty, true, .getter fun o => (slot? o slot).map Value.shared⟩

def mayLend (name : String) (ty : Ty) (slot : String) : Method :=
  ⟨name, ty, true, .companion fun o => (o, (slot? o slot).map fun _ => [.field slot])⟩

def takes (name : String) (ty : Ty) (f : Obj → Option Obj → Obj) : Method :=
  ⟨name, ty, false, .setter f⟩

def mayTake (name : String) (ty : Ty) (f : Obj → Option Obj → Obj) : Method :=
  ⟨name, ty, true, .setter f⟩

def addressType : Ty := bean "Address"

def employeeMethods : List Method := [
  computes "get_name" .str fun _ => .str "employee",
  computes "get_office" addressType fun _ => address (some "Shanghai") 200000,
  computes "is_active" .bool fun o => .bool (!boolIn (slot? o "active")),
  computes "is_level" (.int .u8) fun _ => .int .u8 99,
  computes "get_class" .str fun _ => .str "Employee"]

def managerHome? (o : Obj) : Option Obj :=
  match o.at? [.field "employee", .field "home"] with
  | some home => if intIn (slot? home "zip") = 0 then none else some home
  | none => none

def managerMethods : List Method := [
  takes "set_level" (.int .u8) fun o v =>
    match slot? o "employee" with
    | some employee =>
      withSlot o "employee"
        (some (withSlot employee "level" (some (.int .u8 (intIn v / 2)))))
    | none => o,
  computes "get_title" .str fun _ => .str "boss",
  ⟨"get_home", addressType, true, .getter fun o => (managerHome? o).map Value.shared⟩,
  ⟨"get_home_mut", addressType, true, .companion fun o =>
    (o, (managerHome? o).map fun _ => [.field "employee", .field "home"])⟩]

def holderMethods : List Method := [
  mayCompute "get_address" addressType fun o => slot? o "slot",
  mayTake "set_address" addressType fun o v => withSlot o "slot" v]

def accountConstructors : List Constructor := [
  ⟨"empty", [], fun _ => .ok (account "nobody" (.int .i64 0) none)⟩,
  ⟨"open", [⟨.str, false⟩, ⟨.int .i64, false⟩], fun args =>
    match args with
    | [owner, some balance] => .ok (account (textIn owner) balance none)
    | _ => .error (.argumentCount 2 args.length)⟩,
  ⟨"tagged", [⟨.str, false⟩, ⟨.str, true⟩], fun args =>
    match args with
    | [owner, tag] => .ok (account (textIn owner) (.int .i64 1) tag)
    | _ => .error (.argumentCount 2 args.length)⟩,
  ⟨"second_empty", [], fun _ => .ok (account "never" (.int .i64 (-1)) none)⟩,
  ⟨"second_open", [⟨.str, false⟩, ⟨.int .i64, false⟩], fun args =>
    match args with
    | [owner, balance] =>
      .ok (account (textIn owner) (wrapped .i64 (-intIn balance)) (some (.str "never")))
    | _ => .error (.argumentCount 2 args.length)⟩,
  ⟨"any", [⟨.any, false⟩], fun args =>
    match args with
    | [some value] => .ok (account (value.debug layouts) (.int .i64 2) none)
    | _ => .error (.argumentCount 1 args.length)⟩,
  ⟨"listed", [⟨.shaped .list, false⟩, ⟨addressType, false⟩], fun args =>
    match args with
    | [some (.list _ _ items), some home] =>
      .ok (account (textIn (slot? home "city")) (.int .i64 items.length) none)
    | _ => .error (.argumentCount 2 args.length)⟩]

/-- The constructor of `Both`, which disagrees with its default. -/
def bothConstructors : List Constructor := [
  ⟨"new", [], fun _ => .ok (.bean "fx::Both" [("value", some (.int .i32 42))])⟩]

def countUp (o : Obj) : Obj :=
  withSlot o "count" (some (wrapped .u32 (intIn (slot? o "count") + 1)))

def shapesMethods : List Method := [
  shows "get_addr" addressType "addr",
  mayShow "get_opt_ref" addressType "opt",
  mayLend "get_opt_ref_mut" addressType "opt",
  computes "getURL" .str fun o => .str (textIn (slot? o "URL")),
  takes "setURL" .str fun o v => withSlot o "URL" (some (.str ("<" ++ textIn v ++ ">"))),
  computes "get_items" (vec .str) fun o =>
    match slot? o "items" with
    | some (.list kind item items) => .list kind item (items ++ [.str "computed"])
    | _ => .list .vec .str [.str "computed"],
  computes "getThing" addressType fun o => (slot? o "thing").getD (address none 0),
  ⟨"getThingMut", addressType, false, .companion fun o => (countUp o, some [.field "thing"])⟩,
  mayShow "get_gate" addressType "gate",
  mayTake "set_gate" addressType fun o v =>
    withSlot o "gate" (v.filter fun gate => intIn (slot? gate "zip") != 0),
  computes "is_ok" .bool fun o => .bool (boolIn (slot? o "ok")),
  computes "get_ok" (.int .u8) fun _ => .int .u8 7,
  computes "issued" .bool fun _ => .bool true,
  computes "isle" (.int .u8) fun _ => .int .u8 3,
  mayCompute "get_text" .str fun o => slot? o "text",
  mayTake "set_text" .str fun o v =>
    withSlot o "text" (v.map fun text => .str ((textIn (some text)).map Char.toUpper)),
  takes "set_writeonly" (.int .u32) fun o v => withSlot o "count" v,
  computes "get_count" (.int .u32) fun o => .int .u32 (intIn (slot? o "count")),
  computes "get_boxed" .any fun _ =>
    .list .vec (.int .i32) [.int .i32 1, .int .i32 2, .int .i32 3],
  computes "get_grid" (.array (.fixed 3) (.int .i32)) fun _ =>
    .array (.fixed 3) (.int .i32) [.int .i32 10, .int .i32 20, .int .i32 30],
  computes "fetch" (.int .u8) fun _ => .int .u8 1,
  computes "get_class" (.int .u8) fun _ => .int .u8 9,
  takes "with_count" (.int .u32) fun o v =>
    withSlot o "count" (some (wrapped .u32 (intIn v + 1000))),
  ⟨"fetch_mut", addressType, false, .companion fun o => (o, some [.field "addr"])⟩]

def dropperMethods : List Method := [
  mayShow "get_hole" addressType "slot",
  mayLend "get_hole_mut" addressType "slot",
  mayTake "set_hole" addressType fun o _ =>
    withSlot o "calls" (some (wrapped .u32 (intIn (slot? o "calls") + 1))),
  computes "get_ghost" addressType fun _ => address none 1,
  mayLend "get_ghost_mut" addressType "slot"]

def baseMethods : List Method := [
  computes "get_label" .str fun o => .str ("base:" ++ textIn (slot? o "label")),
  takes "set_label" .str fun o v =>
    withSlot o "label" (some (.str ("base-set:" ++ textIn v))),
  computes "get_code" (.int .i32) fun o => wrapped .i32 (intIn (slot? o "code") + 1),
  ⟨"get_inherited", bean "Option2", false, .getter fun _ =>
    some (.shared (.bean "fx::Option2" [("inner", some (.int .u8 2))]))⟩]

def baseConstructors : List Constructor := [
  ⟨"new", [], fun _ => .ok (.bean "fx::Base" [
    ("code", some (.int .i32 5)),
    ("label", some (.str "base")),
    ("extra", none),
    ("fixed", some (.int .u8 6))])⟩]

/-- A field of `Odd` under some name; all of them share one slot. -/
def oddField (name : String) : Field := ⟨name, "a", .int .i32, false, false⟩

def oddGetter (name : String) : Method :=
  computes name (.int .i32) fun o => .int .i32 (intIn (slot? o "b"))

def oddSetter (name : String) : Method :=
  mayTake name (.int .i32) fun o v => withSlot o "b" (some (v.getD (.int .i32 (-1))))

/-- The class of `Odd`, whose members have names that no declaration could give them. -/
def oddClass : Class where
  name := "OddClass"
  target := .bean "fx::Odd"
  fields :=
    [oddField "$f", oddField "", oddField "class", oddField "serialVersionUID", oddField "plain",
      { oddField "plain" with readonly := true }, { oddField "ro" with readonly := true },
      oddField "x.y", oddField "k[0]", oddField "été"]
  methods :=
    ["get$x", "get_", "get__u", "getclass", "getClass", "getserialVersionUID", "getCLASS", "get",
      "is", "isInt", "get_dup", "getDup", "getÉtÉ"].map oddGetter ++
    ["set", "set_", "setPlain", "set_dup", "set$x", "get_setter"].map oddSetter ++
    [oddGetter "set_getter", oddSetter "isSetter"]
  constructors := [
    ⟨"fail", [], fun _ => .error (.readOnly "odd")⟩,
    ⟨"pair", [⟨.int .i32, false⟩, ⟨.int .i32, true⟩], fun args =>
      match args with
      | [some a, b] => .ok (.bean "fx::Odd" [("a", some a), ("b", some (b.getD (.int .i32 (-7))))])
      | _ => .error (.argumentCount 2 args.length)⟩]

end ObjectGraph.Sample
