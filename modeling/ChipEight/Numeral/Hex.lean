/-
# Hexadecimal text

Addresses, instruction words and operands are written in upper-case base 16,
filled with zeros to a least width. A minus sign counts towards the width, so
`-1` in four places is `-001`.
-/

namespace ChipEight.Numeral

/-- The upper-case base 16 digits of `n`, most significant first. -/
def hexDigits (n : Nat) : List Char :=
  (Nat.toDigits 16 n).map Char.toUpper

/-- `n` in base 16, filled with zeros to `width` characters, the sign included. -/
def hex (width : Nat) (n : Int) : String :=
  let sign := if n < 0 then ['-'] else []
  let digits := hexDigits n.natAbs
  let fill := List.replicate (width - sign.length - digits.length) '0'
  String.ofList (sign ++ fill ++ digits)

end ChipEight.Numeral
