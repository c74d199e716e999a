import ObjectGraph.Integer

/-!
Keys of maps: integers, characters and strings. A key has a path form, its text, and reading that text
under the key's type gives the key back.
-/

set_option autoImplicit false
namespace ObjectGraph

inductive KeyType where
  | int (type : IntType)
  | char
  | str
deriving DecidableEq, Repr

/-- A key; the width of an integer is that of its container's key type. -/
inductive Key where
  | int (value : Int)
  | char (value : Char)
  | str (value : String)
deriving DecidableEq, Repr

def KeyType.name : KeyType → String
  | .int t => t.name
  | .char => "char"
  | .str => "alloc::string::String"

namespace Key

def hasType : Key → KeyType → Bool
  | .int n, .int t => t.contains n
  | .char _, .char => true
  | .str _, .str => true
  | _, _ => false

def text : Key → String
  | .int n => intText n
  | .char c => String.ofList [c]
  | .str s => s

def read? : KeyType → String → Option Key
  | .int t, text => (t.read? text).map .int
  | .char, text =>
    match text.toList with
    | [c] => some (.char c)
    | _ => none
  | .str, text => some (.str text)

/-- The natural order of the keys of one type: numbers by size, characters by code point, strings
character by character. -/
def before : Key → Key → Bool
  | .int m, .int n => m < n
  | .char c, .char d => c < d
  | .str s, .str t => s < t
  | .int _, _ => true
  | .char _, .str _ => true
  | _, _ => false

def textBefore (k l : Key) : Bool :=
  k.text < l.text

end Key

end ObjectGraph
