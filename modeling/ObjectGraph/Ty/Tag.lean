import ObjectGraph.Ty

/-!
Types in short notation: scalars by their short names, containers with their parts between angle
brackets, as in `hmap<str,vec<i32>>` or `arr<u8,4>`, and beans by the last part of their name.
-/

set_option autoImplicit false
namespace ObjectGraph

def ScalarType.tag : ScalarType → String
  | .bool => "bool"
  | .char => "char"
  | .int t => t.name
  | .f32 => "f32"
  | .f64 => "f64"
  | .str => "str"

def KeyType.tag (t : KeyType) : String :=
  t.scalar.tag

def afterColons (name : String) : String :=
  String.ofList (name.toList.reverse.takeWhile (· != ':')).reverse

namespace Ty

def tag : Ty → String
  | .scalar t => t.tag
  | .list .vec item => "vec<" ++ item.tag ++ ">"
  | .list .deque item => "deque<" ++ item.tag ++ ">"
  | .array (.fixed n) item => "arr<" ++ item.tag ++ "," ++ toString n ++ ">"
  | .array .slice item => "slice<" ++ item.tag ++ ">"
  | .map .hash key value => "hmap<" ++ key.tag ++ "," ++ value.tag ++ ">"
  | .map .swiss key value => "hbmap<" ++ key.tag ++ "," ++ value.tag ++ ">"
  | .map .sorted key value => "bmap<" ++ key.tag ++ "," ++ value.tag ++ ">"
  | .set .hash item => "hset<" ++ item.tag ++ ">"
  | .set .sorted item => "bset<" ++ item.tag ++ ">"
  | .bean name => afterColons name
  | .any => "any"
  | .shaped .list => "list"
  | .shaped .map => "map"
  | .shaped .set => "set"
  | .shaped .sortedSet => "sorted_set"

end Ty

namespace Tag

def word (cs : List Char) : String × List Char :=
  let isWord (c : Char) := c != '<' && c != ',' && c != '>'
  (String.ofList (cs.takeWhile isWord), cs.dropWhile isWord)

def after? (c : Char) : List Char → Option (List Char)
  | d :: rest => if d = c then some rest else none
  | [] => none

def scalar? (name : String) : Option ScalarType :=
  match name with
  | "bool" => some .bool
  | "char" => some .char
  | "f32" => some .f32
  | "f64" => some .f64
  | "str" => some .str
  | _ => (IntType.all.find? (·.name == name)).map .int

def key? (name : String) : Option KeyType :=
  match scalar? name with
  | some (.int t) => some (.int t)
  | some .char => some .char
  | some .str => some .str
  | _ => none

def simple? (bean? : String → Option Ty) (name : String) : Option Ty :=
  match name with
  | "any" => some .any
  | "list" => some (.shaped .list)
  | "map" => some (.shaped .map)
  | "set" => some (.shaped .set)
  | "sorted_set" => some (.shaped .sortedSet)
  | _ =>
    match scalar? name with
    | some t => some (.scalar t)
    | none => bean? name

def read? (bean? : String → Option Ty) : Nat → List Char → Option (Ty × List Char)
  | 0, _ => none
  | fuel + 1, cs => do
    let (name, rest) := word cs
    match after? '<' rest with
    | none => return (← simple? bean? name, rest)
    | some inner =>
      let one (make : Ty → Ty) : Option (Ty × List Char) := do
        let (item, rest) ← read? bean? fuel inner
        return (make item, ← after? '>' rest)
      let map (kind : MapKind) : Option (Ty × List Char) := do
        let (key, rest) := word inner
        let (value, rest) ← read? bean? fuel (← after? ',' rest)
        return (.map kind (← key? key) value, ← after? '>' rest)
      match name with
      | "vec" => one (.list .vec)
      | "deque" => one (.list .deque)
      | "slice" => one (.array .slice)
      | "arr" =>
        let (item, rest) ← read? bean? fuel inner
        let (length, rest) := word (← after? ',' rest)
        return (.array (.fixed (← length.toNat?)) item, ← after? '>' rest)
      | "hset" => one (.set .hash)
      | "bset" => one (.set .sorted)
      | "hmap" => map .hash
      | "hbmap" => map .swiss
      | "bmap" => map .sorted
      | _ => none

end Tag

def Ty.ofTag? (bean? : String → Option Ty) (text : String) : Option Ty :=
  match Tag.read? bean? (text.length + 1) text.toList with
  | some (t, []) => some t
  | _ => none

end ObjectGraph
