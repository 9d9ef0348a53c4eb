/-
# Tags, and the tag of plain text

A scalar without a tag takes one from its spelling, tried in this order: truth
value, real number, integer, merge key, null, point in time, default key, mark of
the notation itself; any other is text.

| tag | spellings |
| --- | --- |
| truth | `yes`, `no`, `on`, `off`, `true`, `false` in lower, upper and title case |
| real | digits with a point, an exponent with its sign, base 60, `.inf`, `.nan` |
| integer | base 10, 2 (`0b`), 8 (`0`), 16 (`0x`), base 60 |
| null | nothing, `~`, `null` in lower, upper and title case |
| time | `2001-12-31`, or with a clock |
-/

import ChipEight.Numeral.Plain
import ChipEight.Text

namespace ChipEight.Yaml

/-- What a node is. -/
inductive Tag
  | null | bool | int | float | binary | timestamp | orderedMap | pairs | set | text | seq | map
  | merge | default
  | other (name : String)
  deriving DecidableEq, Repr

/-- What the full names of the standard start with. -/
def Tag.standard : String := "tag:yaml.org,2002:"

/-- The tag of a full name. -/
def Tag.ofName (name : String) : Tag :=
  let known : List (String × Tag) := [("null", null), ("bool", bool), ("int", int),
    ("float", float), ("binary", binary), ("timestamp", timestamp), ("omap", orderedMap),
    ("pairs", pairs), ("set", set), ("str", text), ("seq", seq), ("map", map),
    ("merge", merge), ("value", default)]
  match known.find? fun (short, _) => name = standard ++ short with
  | some (_, tag) => tag
  | none => .other name

/-- What a run of characters may be followed by. -/
abbrev Match := List Char → Bool

namespace Spelling

/-- The end, or a line end right before it. -/
def atEnd : Match := fun cs => cs = [] || cs = ['\n']

/-- The rest after a sign, if there is one. -/
def unsigned (cs : List Char) : List Char := (Numeral.takeSign cs).2

/-- A digit or an underscore. -/
def isSpaced (test : Char → Bool) (c : Char) : Bool := test c || c = '_'

/-- One of the characters and any number of others. -/
def run (first rest : Char → Bool) (next : Match) : Match
  | [] => false
  | c :: cs => first c && next (cs.dropWhile rest)

/-- A minute or a second: one digit, or two of which the first is below six. -/
def sexagesimal : List Char → Option (List Char)
  | a :: b :: cs =>
    if '0' ≤ a && a ≤ '5' && Numeral.isAsciiDigit b then some cs
    else if Numeral.isAsciiDigit a then some (b :: cs)
    else none
  | [a] => if Numeral.isAsciiDigit a then some [] else none
  | [] => none

/-- Any number of sexagesimal digits, each after a colon. -/
def sexagesimals (next : Match) (cs : List Char) : Nat → Bool
  | 0 => next cs
  | fuel + 1 =>
    match cs with
    | ':' :: rest =>
      match sexagesimal rest with
      | some rest => sexagesimals next rest fuel
      | none => false
    | cs => next cs

/-- At least one sexagesimal digit after a colon. -/
def base60 (next : Match) : Match := fun cs =>
  cs.head? = some ':' && sexagesimals next cs cs.length

/-- A digit from one up. -/
def isNonzero (c : Char) : Bool := '1' ≤ c && c ≤ '9'

/-- A decimal digit or an underscore. -/
def isDigitOr_ : Char → Bool := isSpaced Numeral.isAsciiDigit

/-- An exponent with its sign, or none. -/
def exponent : Match := fun cs =>
  atEnd cs || match cs with
    | e :: sign :: rest =>
      (e = 'e' || e = 'E') && (sign = '+' || sign = '-')
        && run Numeral.isAsciiDigit Numeral.isAsciiDigit atEnd rest
    | _ => false

/-- The text is one of these. -/
def oneOf (names : List String) : Match := fun cs =>
  names.any fun name => cs = name.toList || cs = name.toList ++ ['\n']

/-- Spelled as a truth value. -/
def isBool : Match := oneOf
  ["yes", "Yes", "YES", "no", "No", "NO", "true", "True", "TRUE", "false", "False", "FALSE",
    "on", "On", "ON", "off", "Off", "OFF"]

/-- Spelled as a real number. -/
def isFloat : Match := fun cs =>
  let us := unsigned cs
  let afterPoint (next : Match) : Match
    | '.' :: rest => next rest
    | _ => false
  run Numeral.isAsciiDigit isDigitOr_ (afterPoint fun cs => exponent (cs.dropWhile isDigitOr_)) us
    || afterPoint (run Numeral.isAsciiDigit isDigitOr_ exponent) cs
    || run Numeral.isAsciiDigit isDigitOr_
        (base60 (afterPoint fun cs => atEnd (cs.dropWhile isDigitOr_))) us
    || oneOf [".inf", ".Inf", ".INF"] us
    || oneOf [".nan", ".NaN", ".NAN"] cs

/-- Spelled as an integer. -/
def isInt : Match := fun cs =>
  let us := unsigned cs
  let digits (base : Nat) : Char → Bool := isSpaced fun c => (Numeral.baseDigit? base c).isSome
  let marked (mark : Char) (base : Nat) : Match
    | '0' :: m :: rest => m = mark && run (digits base) (digits base) atEnd rest
    | _ => false
  let octal : Match
    | '0' :: rest => run (digits 8) (digits 8) atEnd rest
    | _ => false
  marked 'b' 2 us || octal us || oneOf ["0"] us || run isNonzero isDigitOr_ atEnd us
    || marked 'x' 16 us || run isNonzero isDigitOr_ (base60 atEnd) us

/-- Spelled as nothing. -/
def isNull : Match := fun cs => cs = [] || oneOf ["~", "null", "Null", "NULL"] cs

/-- The number of digits at the front, at most `n`. -/
def digitCount (n : Nat) (cs : List Char) : Nat :=
  ((cs.take n).takeWhile Numeral.isAsciiDigit).length

end Spelling

/-- A point in time as it is written: a date, and the clock if there is one. -/
structure Stamp where
  year : Nat
  month : Nat
  day : Nat
  /-- Hour, minute and second. -/
  clock? : Option (Nat × Nat × Nat) := none
  /-- Hours and minutes from universal time. -/
  offset? : Option (Nat × Nat) := none

namespace Stamp

open Spelling

/-- A number of `least` to `most` digits, and the rest. -/
def number (least most : Nat) (cs : List Char) : Option (Nat × List Char) :=
  let count := digitCount most cs
  if count < least then none
  else some (Numeral.ofDigits 10 ((cs.take count).map fun c => c.toNat - '0'.toNat), cs.drop count)

/-- The rest after a character. -/
def after (ch : Char) : List Char → Option (List Char)
  | c :: cs => if c = ch then some cs else none
  | [] => none

/-- Blanks between the parts. -/
def blanks (cs : List Char) : List Char := cs.dropWhile fun c => c = ' ' || c = '\t'

/-- The distance from universal time at the end, or none. -/
def zone (cs : List Char) : Option (Option (Nat × Nat)) :=
  if atEnd cs then some none
  else
    match blanks cs with
    | 'Z' :: rest => if atEnd rest then some none else none
    | sign :: rest =>
      if sign = '+' || sign = '-' then do
        let (hours, rest) ← number 1 2 rest
        if atEnd rest then return some (hours, 0)
        let (minutes, rest) ← number 2 2 (← after ':' rest)
        if atEnd rest then return some (hours, minutes) else none
      else none
    | [] => none

/-- The gap between a date and a clock. -/
def gap : List Char → Option (List Char)
  | [] => none
  | c :: cs =>
    if c = 'T' || c = 't' then some cs
    else if c = ' ' || c = '\t' then some (blanks cs)
    else none

/-- Reads a point in time. A date alone has two digits for month and day where
`strict`; with a clock one is enough. -/
def read (strict : Bool) (cs : List Char) : Option Stamp := do
  let (year, cs) ← number 4 4 cs
  let cs ← after '-' cs
  let (month, monthRest) ← number 1 2 cs
  let dayStart ← after '-' monthRest
  let (day, rest) ← number 1 2 dayStart
  if atEnd rest then
    if strict && (digitCount 2 cs < 2 || digitCount 2 dayStart < 2) then none
    else return { year, month, day }
  let (hour, rest) ← number 1 2 (← gap rest)
  let (minute, rest) ← number 2 2 (← after ':' rest)
  let (second, rest) ← number 2 2 (← after ':' rest)
  let rest := match rest with
    | '.' :: rest => rest.dropWhile Numeral.isAsciiDigit
    | rest => rest
  return { year, month, day, clock? := some (hour, minute, second), offset? := ← zone rest }

/-- Days in a month. -/
def daysIn (year month : Nat) : Nat :=
  if month = 2 then
    if year % 4 = 0 ∧ (year % 100 ≠ 0 ∨ year % 400 = 0) then 29 else 28
  else if month = 4 ∨ month = 6 ∨ month = 9 ∨ month = 11 then 30
  else 31

/-- There is such a date, clock and distance from universal time. -/
def exists? (s : Stamp) : Bool :=
  1 ≤ s.year && 1 ≤ s.month && s.month ≤ 12 && 1 ≤ s.day && s.day ≤ daysIn s.year s.month
    && (s.clock?.all fun (h, m, sec) => h < 24 && m < 60 && sec < 60)
    && (s.offset?.all fun (h, m) => 60 * h + m < 24 * 60)

end Stamp

/-- The tag of characters by their spelling. -/
def Tag.ofCharacters (cs : List Char) : Tag :=
  if Spelling.isBool cs then .bool
  else if Spelling.isFloat cs then .float
  else if Spelling.isInt cs then .int
  else if Spelling.oneOf ["<<"] cs then .merge
  else if Spelling.isNull cs then .null
  else if (Stamp.read true cs).isSome then .timestamp
  else if Spelling.oneOf ["="] cs then .default
  else if Spelling.oneOf ["!", "&", "*"] cs then .other (standard ++ "yaml")
  else .text

/-- The tag of a scalar by its spelling. -/
def Tag.ofSpelling (text : Text) : Tag :=
  match text.toString? with
  | some s => ofCharacters s.toList
  | none => .text

end ChipEight.Yaml
