/-
# Numbers in plain text

Before a number is read from text that is not all ASCII, blanks of any script
become spaces and digits of any script become ASCII digits; the first other
character beyond ASCII becomes a question mark and ends the text
(`Numeral.plain`). Then

* an integer (`readInt`) is blanks, a sign, digits with single underscores between
  them, blanks; one of more than 4300 decimal digits is refused as such;
* a real number (`readReal`) is blanks, a sign and either digits with an optional
  fraction and exponent, underscores standing between digits only, or a spelling
  of infinity or of no number, and blanks.
-/

import ChipEight.Numeral.Double
import ChipEight.Text.Blank
import ChipEight.Text.Digit

namespace ChipEight.Numeral

/-- The ASCII digit of a value below ten. -/
def asciiDigit (value : Nat) : Char := Char.ofNat ('0'.toNat + value)

/-- The text up to the first character that cannot belong to a number, in ASCII. -/
def toAscii : List Char → List Char
  | [] => []
  | c :: rest =>
    if c.toNat < 127 then c :: toAscii rest
    else if Text.isBlank c then ' ' :: toAscii rest
    else
      match Text.digit? c with
      | some value => asciiDigit value :: toAscii rest
      | none => ['?']

/-- The text that a number is read from. -/
def plain (s : String) : List Char :=
  if s.toList.all fun c => c.toNat < 128 then s.toList else toAscii s.toList

/-- Why a text is no integer. -/
inductive IntError
  /-- It is not written as one. -/
  | malformed
  /-- It has too many digits. -/
  | tooLong (digits : Nat)
  deriving DecidableEq, Repr

/-- The most decimal digits an integer may be written with. -/
def maxDigits : Nat := 4300

/-- The value of a digit in bases up to sixteen. -/
def digitValue? (c : Char) : Option Nat :=
  if '0' ≤ c ∧ c ≤ '9' then some (c.toNat - '0'.toNat)
  else if 'a' ≤ c ∧ c ≤ 'f' then some (c.toNat - 'a'.toNat + 10)
  else if 'A' ≤ c ∧ c ≤ 'F' then some (c.toNat - 'A'.toNat + 10)
  else none

/-- The value of a digit of a base. -/
def baseDigit? (base : Nat) (c : Char) : Option Nat :=
  (digitValue? c).bind fun value => if value < base then some value else none

/-- The digits at the front, and what follows. An underscore must stand between
two digits; `spaced` says that the last character was not a digit. -/
def digitRun (base : Nat) (spaced : Bool) : List Char → Option (List Nat × List Char)
  | [] => if spaced then none else some ([], [])
  | c :: rest =>
    match baseDigit? base c with
    | some value => (digitRun base false rest).map fun (values, rest) => (value :: values, rest)
    | none =>
      if spaced then none
      else if c = '_' then digitRun base true rest
      else some ([], c :: rest)

/-- The number with these digits. -/
def ofDigits (base : Nat) (values : List Nat) : Nat :=
  values.foldl (fun n value => base * n + value) 0

/-- A sign, if there is one, and the rest. -/
def takeSign : List Char → Bool × List Char
  | '-' :: rest => (true, rest)
  | '+' :: rest => (false, rest)
  | cs => (false, cs)

/-- The rest after a mark that announces the base. -/
def dropBaseMark (base : Nat) : List Char → List Char
  | '0' :: mark :: rest =>
    let marked := (base = 16 && (mark = 'x' || mark = 'X')) ||
      (base = 8 && (mark = 'o' || mark = 'O')) || (base = 2 && (mark = 'b' || mark = 'B'))
    if !marked then '0' :: mark :: rest
    else match rest with
      | '_' :: rest => rest
      | rest => rest
  | cs => cs

/-- Reads an integer in a base. The limit on digits is for base ten alone. -/
def readIntBase (base : Nat) (cs : List Char) : Except IntError Int :=
  let (negative, cs) := takeSign (cs.dropWhile Text.isAsciiBlank)
  match digitRun base true (dropBaseMark base cs) with
  | none => .error .malformed
  | some (values, rest) =>
    if base = 10 ∧ maxDigits < values.length then .error (.tooLong values.length)
    else if rest.all Text.isAsciiBlank then
      let n : Int := ofDigits base values
      .ok (if negative then -n else n)
    else .error .malformed

/-- Reads a decimal integer. -/
def readInt (s : String) : Except IntError Int := readIntBase 10 (plain s)

/-- An ASCII digit. -/
def isAsciiDigit (c : Char) : Bool := '0' ≤ c && c ≤ '9'

/-- The text without its underscores, if each stands between digits; `before` is
the character before. -/
def dropUnderscores (before : Char) : List Char → Option (List Char)
  | [] => if before = '_' then none else some []
  | c :: rest =>
    if c = '_' then
      if isAsciiDigit before then dropUnderscores c rest else none
    else if before = '_' && !isAsciiDigit c then none
    else (dropUnderscores c rest).map (c :: ·)

/-- The ASCII digits at the front as a number with their count, and the rest. -/
def takeDigits (cs : List Char) : Nat × Nat × List Char :=
  let digits := cs.takeWhile isAsciiDigit
  (ofDigits 10 (digits.map fun c => c.toNat - '0'.toNat), digits.length, cs.dropWhile isAsciiDigit)

/-- An exponent at the end of a number; nothing is zero. -/
def readExponent : List Char → Option Int
  | [] => some 0
  | mark :: cs =>
    if mark = 'e' || mark = 'E' then
      let (negative, cs) := takeSign cs
      match takeDigits cs with
      | (n, count, rest) =>
        if count = 0 || !rest.isEmpty then none else some (if negative then -n else n)
    else none

/-- A number without its sign: digits, an optional fraction and exponent. -/
def readUnsigned (negative : Bool) (cs : List Char) : Option Float :=
  let (whole, wholeCount, cs) := takeDigits cs
  let (fraction, fractionCount, cs) := match cs with
    | '.' :: cs => takeDigits cs
    | cs => (0, 0, cs)
  if wholeCount + fractionCount = 0 then none
  else (readExponent cs).map fun exponent =>
    Double.ofDecimal negative (whole * Nat.pow 10 fractionCount + fraction)
      (exponent - fractionCount)

/-- The positive infinity. -/
def infinity : Float := Float.ofBits 0x7FF0000000000000

/-- No number. -/
def notANumber : Float := Float.ofBits 0x7FF8000000000000

/-- A spelling of infinity or of no number. -/
def readSpecial (negative : Bool) (cs : List Char) : Option Float :=
  let name := String.ofList (cs.map Char.toLower)
  if name = "inf" || name = "infinity" then some (if negative then -infinity else infinity)
  else if name = "nan" then some notANumber
  else none

/-- Reads a real number from characters in ASCII. -/
def readRealFrom (cs : List Char) : Option Float :=
  let cs := cs.dropWhile Text.isAsciiBlank
  let cs := (cs.reverse.dropWhile Text.isAsciiBlank).reverse
  (dropUnderscores ' ' cs).bind fun cs =>
    let (negative, cs) := takeSign cs
    readSpecial negative cs <|> readUnsigned negative cs

/-- Reads a real number. -/
def readReal (s : String) : Option Float := readRealFrom (plain s)

end ChipEight.Numeral
