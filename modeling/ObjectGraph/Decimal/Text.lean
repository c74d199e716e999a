import ObjectGraph.Decimal.Shortest

/-!
How a floating-point number is written: positional notation with at least one decimal between
`10 ^ (-4)` and `10 ^ 16`, an exponent outside, always the shortest digits that read back.
-/

set_option autoImplicit false
namespace ObjectGraph.Decimal

/-- Where positional writing ends: numbers from `10 ^ low` up to below `10 ^ high`, and zero, are
written by place. -/
structure PositionalRange where
  low : Int
  high : Int

def printed : PositionalRange := ⟨-4, 16⟩

/-- The digits with a point after the first `whole` of them, zeros filled in on either side. -/
def placed (digits : List Char) (whole : Int) : List Char :=
  if whole ≤ 0 then ['0', '.'] ++ List.replicate whole.natAbs '0' ++ digits
  else if digits.length ≤ whole.toNat then
    digits ++ List.replicate (whole.toNat - digits.length) '0' ++ ['.', '0']
  else digits.take whole.toNat ++ ['.'] ++ digits.drop whole.toNat

/-- The digits with a point after the first one and the exponent of ten that belongs to it. -/
def scientific (digits : List Char) (exponent : Int) : List Char :=
  (match digits with
    | [] => []
    | [d] => [d]
    | d :: rest => d :: '.' :: rest) ++ 'e' :: (toString exponent).toList

def Numeral.text (d : Numeral) (range : PositionalRange) : List Char :=
  let digits := Nat.toDigits 10 d.digits
  let whole : Int := digits.length + d.exponent
  if range.low < whole && whole ≤ range.high then placed digits whole
  else scientific digits (whole - 1)

def Number.text : Number → String
  | .nan => "NaN"
  | .infinite negative => if negative then "-inf" else "inf"
  | .finite negative significand exponent lowerStep =>
    let digits :=
      if significand = 0 then ['0', '.', '0']
      else (shortest significand exponent lowerStep).text printed
    String.ofList (if negative then '-' :: digits else digits)

end ObjectGraph.Decimal
