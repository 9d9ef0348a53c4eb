/-
# Reading places

A cursor is what is left of a text with the place where it starts: the index of
its first character, its line and its column. A byte order mark takes no column.
-/

namespace ChipEight.Yaml

/-- Ends a line: line feed, next line, line separator or paragraph separator. -/
def isBreak (c : Char) : Bool :=
  c = '\n' || c = '\u0085' || c = '\u2028' || c = '\u2029'

/-- The end of the text or of a line. -/
def endsLine : Option Char → Bool
  | none => true
  | some c => isBreak c

/-- The end of the text or of a line, or a space. -/
def endsWord (c? : Option Char) : Bool := endsLine c? || c? = some ' '

/-- The end of the text or of a line, a space or a tab. -/
def endsToken (c? : Option Char) : Bool := endsWord c? || c? = some '\t'

/-- A text from a place on. -/
structure Cursor where
  rest : List Char
  index : Nat := 0
  line : Nat := 0
  column : Nat := 0
  deriving Repr

namespace Cursor

/-- The character `k` places on. -/
def at? (c : Cursor) (k : Nat) : Option Char := c.rest[k]?

/-- The character here. -/
def peek? (c : Cursor) : Option Char := c.rest.head?

/-- The character here is `ch`. -/
def isAt (c : Cursor) (ch : Char) : Bool := c.peek? = some ch

/-- The cursor behind the next character. -/
def next (c : Cursor) : Cursor :=
  match c.rest with
  | [] => c
  | ch :: rest =>
    if isBreak ch then ⟨rest, c.index + 1, c.line + 1, 0⟩
    else ⟨rest, c.index + 1, c.line, if ch = '\uFEFF' then c.column else c.column + 1⟩

/-- The cursor behind the next `n` characters. -/
def skip (c : Cursor) : Nat → Cursor
  | 0 => c
  | n + 1 => c.next.skip n

/-- The characters up to the first that fails the test, and the cursor there. -/
def span (c : Cursor) (test : Char → Bool) : List Char × Cursor :=
  let taken := c.rest.takeWhile test
  (taken, c.skip taken.length)

/-- The cursor at the first character that fails the test. -/
def skipWhile (c : Cursor) (test : Char → Bool) : Cursor := (c.span test).2

/-- The cursor behind spaces. -/
def skipSpaces (c : Cursor) : Cursor := c.skipWhile (· = ' ')

/-- The cursor at the end of a comment that starts here. -/
def skipComment (c : Cursor) : Cursor :=
  if c.isAt '#' then c.skipWhile (!isBreak ·) else c

/-- The end of a line: the character it counts for, and the cursor behind it. -/
def lineBreak? (c : Cursor) : Option (Char × Cursor) :=
  match c.peek? with
  | some ch =>
    if ch = '\n' || ch = '\u0085' then some ('\n', c.next)
    else if ch = '\u2028' || ch = '\u2029' then some (ch, c.next)
    else none
  | none => none

/-- Three dashes or three dots, and nothing that goes on, stand here. -/
def atMarker (c : Cursor) (mark : Char) : Bool :=
  c.rest.take 3 = [mark, mark, mark] && endsToken (c.at? 3)

/-- A document starts or ends here. -/
def atDocumentBorder (c : Cursor) : Bool := c.atMarker '-' || c.atMarker '.'

end Cursor

/-- Each way to end a line by carriage return made a single line feed. -/
def unifyBreaks : List Char → List Char
  | [] => []
  | '\r' :: '\n' :: rest => '\n' :: unifyBreaks rest
  | '\r' :: rest => '\n' :: unifyBreaks rest
  | c :: rest => c :: unifyBreaks rest

/-- A character that may stand in a document. -/
def isAllowed (c : Char) : Bool :=
  let n := c.toNat
  c = '\t' || c = '\n' || c = '\r' || (0x20 ≤ n && n ≤ 0x7E) || n = 0x85
    || (0xA0 ≤ n && n ≤ 0xD7FF) || (0xE000 ≤ n && n ≤ 0xFFFD) || 0x10000 ≤ n

end ChipEight.Yaml
