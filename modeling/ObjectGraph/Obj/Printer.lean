import ObjectGraph.Schema
import ObjectGraph.Decimal.Text
import ObjectGraph.Text.Quoted

/-!
The text of an object. Strings and characters are quoted; lists and arrays stand in brackets, sets
and maps in braces, a map's keys quoted and its values marked as present. A bean shows its fields if
its layout says so, with absent and optional values marked, and otherwise only its type's name.
-/

set_option autoImplicit false
namespace ObjectGraph

def enclosed (opening closing : String) (items : List String) : String :=
  opening ++ ", ".intercalate items ++ closing

def recordText (name : String) (fields : List (String × String)) : String :=
  if fields.isEmpty then name
  else enclosed (name ++ " \x7b ") " \x7d" (fields.map fun (field, value) => field ++ ": " ++ value)

def partialRecordText (name : String) (fields : List (String × String)) : String :=
  enclosed (name ++ " \x7b ") ", .. \x7d"
    (fields.map fun (field, value) => field ++ ": " ++ value)

def presentText (value : String) : String :=
  "Some(" ++ value ++ ")"

def boolText (b : Bool) : String :=
  if b then "true" else "false"

def Scalar.debug : Scalar → String
  | .bool b => boolText b
  | .char c => Text.quoteChar c
  | .int _ n => intText n
  | .f32 bits => (Decimal.binary32.decode bits.toNat).text
  | .f64 bits => (Decimal.binary64.decode bits.toNat).text
  | .str s => Text.quoteString s

def fieldText (nullable : Bool) : Option String → String
  | none => "None"
  | some text => if nullable then presentText text else text

def Layout.isNullable (l : Layout) (name : String) : Bool :=
  match l.slot? name with
  | some slot => slot.nullable
  | none => false

mutual

def Obj.debug (layouts : Layouts) : Obj → String
  | .scalar s => s.debug
  | .list _ _ items => enclosed "[" "]" (debugItems layouts items)
  | .array _ _ items => enclosed "[" "]" (debugItems layouts items)
  | .map _ _ _ entries => enclosed "\x7b" "\x7d" (debugEntries layouts entries)
  | .set _ _ members => enclosed "\x7b" "\x7d" (debugItems layouts members)
  | .bean type fields =>
    match layouts type with
    | some layout =>
      if layout.showsFields then recordText layout.className (debugFields layouts layout fields)
      else type
    | none => type

def debugItems (layouts : Layouts) : List Obj → List String
  | [] => []
  | o :: rest => o.debug layouts :: debugItems layouts rest

def debugEntries (layouts : Layouts) : List (Key × Obj) → List String
  | [] => []
  | (k, o) :: rest =>
    (Text.quoteString k.text ++ ": " ++ presentText (o.debug layouts)) :: debugEntries layouts rest

def debugFields (layouts : Layouts) (layout : Layout) :
    List (String × Option Obj) → List (String × String)
  | [] => []
  | (name, none) :: rest =>
    (name, fieldText (layout.isNullable name) none) :: debugFields layouts layout rest
  | (name, some o) :: rest =>
    (name, fieldText (layout.isNullable name) (some (o.debug layouts))) ::
      debugFields layouts layout rest

end

end ObjectGraph
