/-
# Settings from values

An integer is taken from a number, a truth value or a text; a real number from
the same; an infinite number is no integer, and an integer may be too large for a
real number (`ConversionError.tooLarge`). A choice is taken from any value by the text
it is written as; but an integer of too many digits is never written, nor are collections
that lie too deep in one another for the host.
-/

import ChipEight.Host
import ChipEight.Numeral.Plain

namespace ChipEight

/-- The integer can be written in decimal. -/
def Numeral.isWritable (n : Int) : Bool := n.natAbs < Nat.pow 10 maxDigits

/-- Why a value is no setting of the wanted type. -/
inductive ConversionError
  /-- An integer cannot be made from this type. -/
  | notInteger (type : String)
  /-- A real number cannot be made from this type. -/
  | notReal (type : String)
  /-- The text, here in quotes, is no integer. -/
  | badInteger (quoted : String)
  /-- The text, here in quotes, is no real number. -/
  | badReal (quoted : String)
  /-- The text has too many digits. -/
  | tooManyDigits (digits : Nat)
  /-- No number is no integer either. -/
  | notANumber
  /-- An integer has more digits than are ever written. -/
  | unwritable
  /-- An infinity, or an integer beyond every double. -/
  | tooLarge
  /-- The host has no room left to write what lies so deep in collections. -/
  | tooDeep
  deriving DecidableEq, Repr

namespace ConversionError

/-- Wording of a failed conversion. -/
def message : ConversionError → String
  | notInteger type =>
    "int() argument must be a string, a bytes-like object or a real number, not '" ++ type ++ "'"
  | notReal type => "float() argument must be a string or a real number, not '" ++ type ++ "'"
  | badInteger quoted => "invalid literal for int() with base 10: " ++ quoted
  | badReal quoted => "could not convert string to float: " ++ quoted
  | tooManyDigits digits =>
    "Exceeds the limit (" ++ toString Numeral.maxDigits
      ++ " digits) for integer string conversion: value has " ++ toString digits
      ++ " digits; use sys.set_int_max_str_digits() to increase the limit"
  | notANumber => "cannot convert float NaN to integer"
  | unwritable =>
    "Exceeds the limit (" ++ toString Numeral.maxDigits
      ++ " digits) for integer string conversion; use sys.set_int_max_str_digits() to increase the"
      ++ " limit"
  | tooLarge => "number out of range"
  | tooDeep => "collections nested too deeply"

/-- The failure is one that conversions are expected to end in; else it ends the program. -/
def isReported : ConversionError → Bool
  | tooLarge | tooDeep => false
  | _ => true

end ConversionError

namespace Value

/-- Characters of a quoted text that an error shows. -/
def shownQuote : Nat := 200

/-- An integer read from text, with the error in words. -/
def intOfText (quoted : String) : Except Numeral.IntError Int → Except ConversionError Int
  | .ok n => .ok n
  | .error .malformed => .error (.badInteger (Text.cut shownQuote quoted))
  | .error (.tooLong digits) => .error (.tooManyDigits digits)

/-- The characters that a number is read from in a byte string. -/
def asciiOf (bs : List UInt8) : List Char :=
  bs.map fun b => if b < 128 then Char.ofNat b.toNat else '?'

/-- The value as an integer; a real number loses its fraction. -/
def toInt (v : Value) : Except ConversionError Int :=
  match v with
  | int n => .ok n
  | bool b => .ok (if b then 1 else 0)
  | float x =>
    match Numeral.Double.parts? x with
    | some p => .ok p.truncate
    | none => .error (if x.isNaN then .notANumber else .tooLarge)
  | text t => intOfText (Text.quoted t) (Numeral.readInt t.shown)
  | bytes bs => intOfText (Text.quotedBytes bs) (Numeral.readIntBase 10 (asciiOf bs))
  | _ => .error (.notInteger v.typeName)

/-- A real number read from text, with the error in words. -/
def realOfText (quoted : String) : Option Float → Except ConversionError Float
  | some x => .ok x
  | none => .error (.badReal quoted)

/-- The value as a real number. -/
def toReal (v : Value) : Except ConversionError Float :=
  match v with
  | float x => .ok x
  | bool b => .ok (if b then 1 else 0)
  | int n =>
    match Numeral.Double.ofInt? n with
    | some x => .ok x
    | none => .error .tooLarge
  | text t => realOfText (Text.quoted t) (Numeral.readReal t.shown)
  | bytes bs => realOfText (Text.quotedBytes bs) (Numeral.readRealFrom (asciiOf bs))
  | _ => .error (.notReal v.typeName)

/-- Why a part of a value cannot be written, if it cannot. -/
def unwritable? (stack : Stack) : Nat × Value → Option ConversionError
  | (depth, v) =>
    if !stack.writes depth v then some .tooDeep
    else match v with
      | int n => if Numeral.isWritable n then none else some .unwritable
      | _ => none

/-- The lower-case name that a value gives a choice: what the value is written as. Of
values that are no text it is empty, for none is written as a choice, and there is
none of a value that cannot be written. -/
def toName (stack : Stack) : Value → Except ConversionError String
  | text t => .ok (t.shown.map Char.toLower)
  | v =>
    match (v.parts 0).findSome? (unwritable? stack) with
    | some e => .error e
    | none => .ok ""

end Value
end ChipEight
