/-
# Decimal text with fixed places

The exact value of a double, rounded to a number of decimal places, a half to the
even neighbour. A minus sign stays even when all digits are zero.
-/

import ChipEight.Numeral.Double

namespace ChipEight.Numeral

/-- `n` as units of `10 ^ -places`. -/
def placesText (places n : Nat) : String :=
  let digits := Nat.toDigits 10 n
  let digits := List.replicate (places + 1 - digits.length) '0' ++ digits
  let whole := digits.take (digits.length - places)
  let fraction := digits.drop (digits.length - places)
  String.ofList (whole ++ if places = 0 then [] else '.' :: fraction)

/-- A double with `places` decimal places. -/
def fixed (places : Nat) (x : Float) : String :=
  match Double.parts? x with
  | some p =>
    let (num, den) := p.ratio
    let units := Double.roundDiv (num * Nat.pow 10 places) den
    (if p.negative then "-" else "") ++ placesText places units
  | none => if x.isNaN then "nan" else if Double.signBit x then "-inf" else "inf"

end ChipEight.Numeral
