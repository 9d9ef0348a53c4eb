/-
# Exact reading and rounding of binary floating point

A finite double is `± m * 2 ^ q` with natural `m` (`Double.parts?`). A quotient of
naturals is rounded to the nearest double, a tie to the even one
(`Double.ofRatio`). Nothing here goes through inexact arithmetic.
-/

namespace ChipEight.Numeral.Double

/-- Sign, significand and exponent of a finite double: `± m * 2 ^ q`. -/
structure Parts where
  negative : Bool
  m : Nat
  q : Int
  deriving DecidableEq, Repr

/-- Weight of the sign among the bits of a double. -/
def signWeight : Nat := 0x8000000000000000

/-- Weight of the lowest bit of the exponent, one above the fraction. -/
def exponentWeight : Nat := 0x10000000000000

/-- The parts of a double; an infinity and a NaN have none. -/
def parts? (x : Float) : Option Parts :=
  let bits := x.toBits.toNat
  let negative : Bool := signWeight ≤ bits
  let exponent : Nat := bits / exponentWeight % 2048
  let fraction : Nat := bits % exponentWeight
  if exponent = 2047 then none
  else if exponent = 0 then some ⟨negative, fraction, -1074⟩
  else some ⟨negative, fraction + exponentWeight, (exponent : Int) - 1075⟩

/-- The double is below zero or minus zero, an infinity or a NaN included. -/
def signBit (x : Float) : Bool := signWeight ≤ x.toBits.toNat

namespace Parts

/-- The magnitude as a quotient. -/
def ratio (p : Parts) : Nat × Nat := (p.m * Nat.pow 2 p.q.toNat, Nat.pow 2 (-p.q).toNat)

/-- The number without its fraction. -/
def truncate (p : Parts) : Int :=
  let whole : Nat := p.ratio.1 / p.ratio.2
  if p.negative then -whole else whole

end Parts

/-- `num / den` rounded to a whole number, a half to the even one. -/
def roundDiv (num den : Nat) : Nat :=
  let whole := num / den
  let twice := 2 * (num % den)
  if twice < den then whole
  else if den < twice then whole + 1
  else whole + whole % 2

/-- The greatest `e` with `2 ^ e ≤ num / den`. -/
def floorLog2 (num den : Nat) : Int :=
  let e : Int := (num.log2 : Int) - den.log2
  if num * Nat.pow 2 (-e).toNat < den * Nat.pow 2 e.toNat then e - 1 else e

/-- The bits of the positive infinity. -/
def infiniteBits : Nat := 2047 * exponentWeight

/-- The bits of the double nearest to `num / den`, a tie going to the even one;
a number out of range is an infinity. -/
def ratioBits (num den : Nat) : Nat :=
  if num = 0 then 0
  else
    let q := max (floorLog2 num den - 52) (-1074)
    let m := roundDiv (num * Nat.pow 2 (-q).toNat) (den * Nat.pow 2 q.toNat)
    min (m + (q + 1074).toNat * exponentWeight) infiniteBits

/-- The double nearest to `± num / den`. -/
def ofRatio (negative : Bool) (num den : Nat) : Float :=
  Float.ofBits (UInt64.ofNat (ratioBits num den + if negative then signWeight else 0))

/-- The double nearest to a whole number. -/
def ofInt (n : Int) : Float := ofRatio (n < 0) n.natAbs 1

/-- The double nearest to a whole number, unless that is an infinity. -/
def ofInt? (n : Int) : Option Float :=
  if ratioBits n.natAbs 1 < infiniteBits then some (ofInt n) else none

/-- `± digits * 10 ^ exponent` as a double. Far out of range it is settled by size
alone, so that no huge power is formed. -/
def ofDecimal (negative : Bool) (digits : Nat) (exponent : Int) : Float :=
  let size : Int := (Nat.toDigits 10 digits).length + exponent
  if digits = 0 ∨ size < -400 then ofRatio negative 0 1
  else if 400 < size then ofRatio negative (Nat.pow 2 1100) 1
  else ofRatio negative (digits * Nat.pow 10 exponent.toNat) (Nat.pow 10 (-exponent).toNat)

end ChipEight.Numeral.Double
