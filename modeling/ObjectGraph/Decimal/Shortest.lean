/-!
The shortest decimal that rounds back to a binary floating-point number. A number is taken as
`significand · 2 ^ exponent`; the reals that round to it form an interval, closed where the
significand is even. Digit counts are tried in increasing order, and on each decimal grid only the
two neighbours of the number; the nearer neighbour inside the interval wins, the upper one on a tie.
-/

set_option autoImplicit false
namespace ObjectGraph.Decimal

structure BinaryFormat where
  exponentBits : Nat
  fractionBits : Nat
deriving DecidableEq, Repr

def binary32 : BinaryFormat := ⟨8, 23⟩

def binary64 : BinaryFormat := ⟨11, 52⟩

/-- A number as its bits denote it. `lowerStep` says that the next smaller number lies half as far
away as the next larger one. -/
inductive Number where
  | nan
  | infinite (negative : Bool)
  | finite (negative : Bool) (significand : Nat) (exponent : Int) (lowerStep : Bool)
deriving DecidableEq, Repr

def BinaryFormat.decode (format : BinaryFormat) (bits : Nat) : Number :=
  let fraction := bits % Nat.pow 2 format.fractionBits
  let biased := bits / Nat.pow 2 format.fractionBits % Nat.pow 2 format.exponentBits
  let negative := bits / Nat.pow 2 (format.fractionBits + format.exponentBits) % 2 = 1
  let bias : Int := (Nat.pow 2 (format.exponentBits - 1) : Int) - 1 + format.fractionBits
  if biased = Nat.pow 2 format.exponentBits - 1 then
    if fraction = 0 then .infinite negative else .nan
  else if biased = 0 then .finite negative fraction (1 - bias) false
  else .finite negative (Nat.pow 2 format.fractionBits + fraction) (biased - bias)
    (fraction = 0 && biased != 1)

/-- Equality of numbers: no number equals an undefined one, and the two zeros are equal. -/
def Number.equals : Number → Number → Bool
  | .infinite s, .infinite t => s == t
  | .finite s m e _, .finite t n f _ => (m == 0 && n == 0) || (s == t && m == n && e == f)
  | _, _ => false

/-- A positive decimal `digits · 10 ^ exponent`. -/
structure Numeral where
  digits : Nat
  exponent : Int
deriving DecidableEq, Repr

/-- `numerator / denominator` scaled by a power of two, as a fraction of naturals. -/
def scaleTwo (n : Nat) (e : Int) : Nat × Nat :=
  if e < 0 then (n, Nat.pow 2 e.natAbs) else (n * Nat.pow 2 e.toNat, 1)

def divideTen (x : Nat × Nat) (e : Int) : Nat × Nat :=
  if e < 0 then (x.1 * Nat.pow 10 e.natAbs, x.2) else (x.1, x.2 * Nat.pow 10 e.toNat)

/-- The interval of reals that round to the number, in quarters of its last place, and whether its
ends belong to it. -/
def roundsTo (significand : Nat) (lowerStep : Bool) : Nat × Nat × Bool :=
  (4 * significand - (if lowerStep then 1 else 2), 4 * significand + 2, significand % 2 == 0)

/-- Of the two points of the grid `10 ^ place` around the number, the nearer one that rounds back
to it. -/
def gridPoint? (significand : Nat) (exponent : Int) (lowerStep : Bool) (place : Int) : Option Nat :=
  let (num, den) := divideTen (scaleTwo (4 * significand) (exponent - 2)) place
  let (lowQ, highQ, closed) := roundsTo significand lowerStep
  let (lowNum, _) := divideTen (scaleTwo lowQ (exponent - 2)) place
  let (highNum, _) := divideTen (scaleTwo highQ (exponent - 2)) place
  let below := num / den
  let inside (d : Nat) : Bool :=
    if closed then lowNum ≤ d * den && d * den ≤ highNum
    else lowNum < d * den && d * den < highNum
  let lower := inside below && below != 0
  let upper := inside (below + 1)
  if lower && upper then
    some (if 2 * (num - below * den) < den then below else below + 1)
  else if lower then some below
  else if upper then some (below + 1)
  else none

/-- The place of the leading digit of a fraction: the largest `p` with `10 ^ p` not above it,
searched downwards from `start`. -/
def leadingPlace (x : Nat × Nat) (start : Int) : Nat → Int
  | 0 => start
  | fuel + 1 =>
    let (num, den) := divideTen x start
    if den ≤ num then start else leadingPlace x (start - 1) fuel

/-- Tries grids from the coarsest, whose points have one digit, to ever finer ones. -/
def firstHit (significand : Nat) (exponent : Int) (lowerStep : Bool) (place : Int) :
    Nat → Numeral
  | 0 => ⟨significand, 0⟩
  | fuel + 1 =>
    match gridPoint? significand exponent lowerStep place with
    | some d => ⟨d, place⟩
    | none => firstHit significand exponent lowerStep (place - 1) fuel

def Numeral.trim (d : Numeral) : Nat → Numeral
  | 0 => d
  | fuel + 1 =>
    if d.digits != 0 && d.digits % 10 = 0 then trim ⟨d.digits / 10, d.exponent + 1⟩ fuel else d

/-- The shortest decimal that rounds back to `significand · 2 ^ exponent`, for a positive
significand. -/
def shortest (significand : Nat) (exponent : Int) (lowerStep : Bool) : Numeral :=
  let x := scaleTwo significand exponent
  let place := leadingPlace x 400 800
  (firstHit significand exponent lowerStep place 40).trim 400

end ObjectGraph.Decimal
