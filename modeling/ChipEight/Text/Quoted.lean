/-
# Quoted text

A text in an error message stands in single quotes, or in double quotes if it
holds a single quote and no double one. Tab, line feed, carriage return, the
backslash and the quote are escaped by a backslash, any other character that is
not printable, and a surrogate, by its code in two, four or eight hexadecimal
digits.
-/

import ChipEight.Numeral.Hex
import ChipEight.Text
import ChipEight.Text.Printable

namespace ChipEight.Text

/-- The quote that surrounds a text. -/
def quoteFor (cs : List Char) : Char :=
  if cs.contains '\'' && !cs.contains '"' then '"' else '\''

/-- `code` in `width` lower-case hexadecimal digits. -/
def codeDigits (width code : Nat) : List Char :=
  let digits := Nat.toDigits 16 code
  List.replicate (width - digits.length) '0' ++ digits

/-- A code point that cannot stand as itself. -/
def escapeCode (code : Nat) : List Char :=
  if code < 0x100 then '\\' :: 'x' :: codeDigits 2 code
  else if code < 0x10000 then '\\' :: 'u' :: codeDigits 4 code
  else '\\' :: 'U' :: codeDigits 8 code

/-- A character between quotes. -/
def quoteChar (quote c : Char) : List Char :=
  if c = quote || c = '\\' then ['\\', c]
  else if c = '\t' then ['\\', 't']
  else if c = '\n' then ['\\', 'n']
  else if c = '\r' then ['\\', 'r']
  else if isPrintable c then [c]
  else escapeCode c.toNat

/-- A code point between quotes. -/
def quotePoint (quote : Char) : Point → List Char
  | .char c => quoteChar quote c
  | p => escapeCode p.code

/-- A text in quotes. -/
def quoted (t : Text) : String :=
  let quote := quoteFor (t.points.filterMap Point.char?)
  String.ofList (quote :: t.points.flatMap (quotePoint quote) ++ [quote])

/-- A byte string in quotes, marked by a `b`; only ASCII stands as itself. -/
def quotedBytes (bytes : List UInt8) : String :=
  let cs := bytes.map fun b => Char.ofNat b.toNat
  let quote := quoteFor cs
  let body := cs.flatMap fun c =>
    if c.toNat < 0x7F then quoteChar quote c else escapeCode c.toNat
  String.ofList ('b' :: quote :: body ++ [quote])

/-- The first `n` characters of a string. -/
def cut (n : Nat) (s : String) : String := String.ofList (s.toList.take n)

end ChipEight.Text
