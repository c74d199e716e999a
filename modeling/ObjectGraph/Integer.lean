/-!
The fixed-width integer types that objects hold, and their exact decimal reading: an optional sign,
at least one digit, and a value inside the range. Nothing is reduced modulo the width.
-/

set_option autoImplicit false
namespace ObjectGraph

/-- An integer type. The two machine-sized types have 64 bits. -/
inductive IntType where
  | u8 | u16 | u32 | u64 | u128 | usize
  | i8 | i16 | i32 | i64 | i128 | isize
deriving DecidableEq, Repr

namespace IntType

def bits : IntType → Nat
  | u8 | i8 => 8
  | u16 | i16 => 16
  | u32 | i32 => 32
  | u64 | i64 | usize | isize => 64
  | u128 | i128 => 128

def isSigned : IntType → Bool
  | u8 | u16 | u32 | u64 | u128 | usize => false
  | i8 | i16 | i32 | i64 | i128 | isize => true

def name : IntType → String
  | u8 => "u8" | u16 => "u16" | u32 => "u32" | u64 => "u64" | u128 => "u128" | usize => "usize"
  | i8 => "i8" | i16 => "i16" | i32 => "i32" | i64 => "i64" | i128 => "i128" | isize => "isize"

def all : List IntType :=
  [u8, u16, u32, u64, u128, usize, i8, i16, i32, i64, i128, isize]

def least (t : IntType) : Int :=
  if t.isSigned then -(Nat.pow 2 (t.bits - 1)) else 0

def greatest (t : IntType) : Int :=
  if t.isSigned then (Nat.pow 2 (t.bits - 1) : Int) - 1 else (Nat.pow 2 t.bits : Int) - 1

def contains (t : IntType) (n : Int) : Bool :=
  t.least ≤ n && n ≤ t.greatest

def readDigits (cs : List Char) : Option Nat :=
  if cs.isEmpty || !cs.all Char.isDigit then none
  else some (cs.foldl (fun n c => 10 * n + (c.toNat - '0'.toNat)) 0)

/-- The value of digits with an optional sign; only signed types have a minus. -/
def readSigned (t : IntType) : List Char → Option Int
  | '+' :: cs => (readDigits cs).map Int.ofNat
  | '-' :: cs => if t.isSigned then (readDigits cs).map fun n => -(n : Int) else none
  | cs => (readDigits cs).map Int.ofNat

def read? (t : IntType) (text : String) : Option Int :=
  match readSigned t text.toList with
  | some n => if t.contains n then some n else none
  | none => none

end IntType

def intText (n : Int) : String :=
  String.ofList ((if n < 0 then ['-'] else []) ++ Nat.toDigits 10 n.natAbs)

end ObjectGraph
