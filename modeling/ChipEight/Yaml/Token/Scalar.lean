/-
# Scalars as they are written

Four spellings of a text: in single or double quotes (`quotedScalar`), bare
(`plainScalar`), and as a block below a `|` or `>` (`blockScalar`). Each gives the
text and the cursor behind it; an escape in double quotes can put a surrogate into
a text, all else are characters. A line end inside a scalar counts as a space, and
empty lines after it as themselves, except in a `|` block, which keeps all.

Loops carry fuel; every turn uses up a character, so the length of the text is
enough.
-/

import ChipEight.Numeral.Plain
import ChipEight.Text
import ChipEight.Yaml.Cursor
import ChipEight.Yaml.Error

namespace ChipEight.Yaml

/-- Spaces and tabs. -/
def isSpaceOrTab (c : Char) : Bool := c = ' ' || c = '\t'

/-- A line end followed by empty lines, folded. -/
def foldBreaks (lineBreak : Char) (breaks : List Char) : List Char :=
  if lineBreak ≠ '\n' then lineBreak :: breaks
  else if breaks.isEmpty then [' ']
  else breaks

/-- The value of hexadecimal digits. -/
def hexValue? (cs : List Char) : Option Nat :=
  (cs.mapM Numeral.digitValue?).map (Numeral.ofDigits 16)

/-! ## Quotes -/

/-- The character that a letter after a backslash stands for. -/
def escaped? (c : Char) : Option Char :=
  [('0', '\x00'), ('a', '\x07'), ('b', '\x08'), ('t', '\t'), ('\t', '\t'), ('n', '\n'),
    ('v', '\x0B'), ('f', '\x0C'), ('r', '\r'), ('e', '\x1B'), (' ', ' '), ('"', '"'),
    ('\\', '\\'), ('/', '/'), ('N', '\u0085'), ('_', '\u00A0'), ('L', '\u2028'),
    ('P', '\u2029')].lookup c

/-- How many hexadecimal digits follow a letter after a backslash. -/
def codeLength? (c : Char) : Option Nat := [('x', 2), ('u', 4), ('U', 8)].lookup c

/-- The code point of a number. -/
def pointOfCode (code : Nat) : Except Error Text.Point :=
  if code ≤ 0x10FFFF then .ok (.ofCode code)
  else if code < 0x80000000 then .error (.scalar .badCharacter)
  else .error (.scalar .tooLarge)

/-- Empty lines and the indentation of the next one, inside quotes. -/
def quotedBreaks (c : Cursor) : Nat → Except Error (List Char × Cursor)
  | 0 => .error .malformed
  | fuel + 1 =>
    if c.atDocumentBorder then .error .malformed
    else
      let c := c.skipWhile isSpaceOrTab
      match c.lineBreak? with
      | none => .ok ([], c)
      | some (b, c) => (quotedBreaks c fuel).map fun (bs, c) => (b :: bs, c)

/-- What a backslash starts. -/
def escape (c : Cursor) (fuel : Nat) : Except Error (Text × Cursor) := do
  let some ch := c.peek? | throw .malformed
  if let some e := escaped? ch then return (.ofList [e], c.next)
  if let some length := codeLength? ch then
    let c := c.next
    let digits := c.rest.take length
    if digits.length < length then throw .malformed
    let some code := hexValue? digits | throw .malformed
    return (⟨[← pointOfCode code]⟩, c.skip length)
  match c.lineBreak? with
  | some (_, c) => (quotedBreaks c fuel).map fun (breaks, c) => (.ofList breaks, c)
  | none => throw .malformed

/-- Text inside quotes up to a blank, a line end or the closing quote. -/
def quotedWord (double : Bool) (c : Cursor) : Nat → Except Error (Text × Cursor)
  | 0 => .error .malformed
  | fuel + 1 => do
    let (word, c) := c.span fun ch =>
      !(isSpaceOrTab ch || isBreak ch || ch = '\'' || ch = '"' || ch = '\\')
    match c.peek? with
    | some '\'' =>
      if double then
        let (more, c) ← quotedWord double c.next fuel
        return (.ofList (word ++ ['\'']) ++ more, c)
      else if c.at? 1 = some '\'' then
        let (more, c) ← quotedWord double (c.skip 2) fuel
        return (.ofList (word ++ ['\'']) ++ more, c)
      else return (.ofList word, c)
    | some '"' =>
      if double then return (.ofList word, c)
      else
        let (more, c) ← quotedWord double c.next fuel
        return (.ofList (word ++ ['"']) ++ more, c)
    | some '\\' =>
      if double then
        let (part, c) ← escape c.next fuel
        let (more, c) ← quotedWord double c fuel
        return (.ofList word ++ part ++ more, c)
      else
        let (more, c) ← quotedWord double c.next fuel
        return (.ofList (word ++ ['\\']) ++ more, c)
    | _ => return (.ofList word, c)

/-- Blanks and line ends between words in quotes. -/
def quotedGap (c : Cursor) (fuel : Nat) : Except Error (List Char × Cursor) := do
  let (blanks, c) := c.span isSpaceOrTab
  if c.peek?.isNone then throw .malformed
  match c.lineBreak? with
  | none => return (blanks, c)
  | some (b, c) =>
    let (breaks, c) ← quotedBreaks c fuel
    return (foldBreaks b breaks, c)

/-- The words and gaps up to the closing quote. -/
def quotedRest (double : Bool) (c : Cursor) : Nat → Except Error (Text × Cursor)
  | 0 => .error .malformed
  | fuel + 1 => do
    let (word, c) ← quotedWord double c (fuel + 1)
    if c.isAt (if double then '"' else '\'') then return (word, c.next)
    let (gap, c) ← quotedGap c (fuel + 1)
    let (more, c) ← quotedRest double c fuel
    return (word ++ .ofList gap ++ more, c)

/-- A scalar in quotes; the cursor is at the opening one. -/
def quotedScalar (c : Cursor) : Except Error (Text × Cursor) :=
  quotedRest (c.isAt '"') c.next (c.rest.length + 1)

/-! ## Plain text -/

/-- Marks that end plain text inside brackets. -/
def isFlowMark (c : Char) : Bool := c = ',' || c = '[' || c = ']' || c = '{' || c = '}'

/-- The length of plain text at the front, up to a blank, a line end, a colon that
ends a key or, inside brackets, a mark. -/
def plainLength (inFlow : Bool) : List Char → Nat
  | [] => 0
  | ch :: rest =>
    let ends := endsToken (some ch)
      || (ch = ':' && (endsToken rest.head? || (inFlow && rest.head?.any isFlowMark)))
      || (inFlow && (ch = '?' || isFlowMark ch))
    if ends then 0 else plainLength inFlow rest + 1

/-- Empty lines and spaces after a line end, up to text; none at a document border. -/
def plainBreaks (c : Cursor) : Nat → Option (List Char) × Cursor
  | 0 => (none, c)
  | fuel + 1 =>
    if c.isAt ' ' then plainBreaks c.next fuel
    else
      match c.lineBreak? with
      | none => (some [], c)
      | some (b, c) =>
        if c.atDocumentBorder then (none, c)
        else
          let (breaks?, c) := plainBreaks c fuel
          (breaks?.map (b :: ·), c)

/-- The gap after a piece of plain text, the cursor behind it, and whether it ended
a line. An empty gap ends the scalar. -/
def plainGap (c : Cursor) : List Char × Cursor × Bool :=
  let (blanks, c) := c.span (· = ' ')
  match c.lineBreak? with
  | none => (blanks, c, false)
  | some (b, c) =>
    if c.atDocumentBorder then ([], c, true)
    else
      let (breaks?, c) := plainBreaks c (c.rest.length + 1)
      ((breaks?.map (foldBreaks b)).getD [], c, true)

/-- Pieces of plain text, each after the gap before it. Nothing at all is text
after the last gap. The flag says that the last gap ended a line. -/
def plainPieces (inFlow : Bool) (indent : Nat) (gap : List Char) (ended : Bool) (c : Cursor) :
    Nat → List Char × Cursor × Bool
  | 0 => ([], c, ended)
  | fuel + 1 =>
    let length := plainLength inFlow c.rest
    if c.isAt '#' || length = 0 then ([], c, ended)
    else
      let piece := gap ++ c.rest.take length
      let (gap, c, ended) := plainGap (c.skip length)
      if gap.isEmpty || c.isAt '#' || (!inFlow && c.column < indent) then (piece, c, ended)
      else
        let (more, c, ended) := plainPieces inFlow indent gap ended c fuel
        (piece ++ more, c, ended)

/-- A plain scalar. Outside brackets its lines are indented at least by `indent`.
The flag says that it ended at the start of a line. -/
def plainScalar (inFlow : Bool) (indent : Nat) (c : Cursor) : List Char × Cursor × Bool :=
  plainPieces inFlow indent [] false c (c.rest.length + 1)

/-! ## Blocks -/

/-- What happens to the line ends at the end of a block. -/
inductive Chomping
  | strip | clip | keep
  deriving DecidableEq, Repr

/-- The chomping of a sign. -/
def chomping? : Option Char → Option Chomping
  | some '+' => some .keep
  | some '-' => some .strip
  | _ => none

/-- The indentation of a digit. -/
def increment? (c? : Option Char) : Option Nat :=
  c?.bind fun c => if Numeral.isAsciiDigit c then some (c.toNat - '0'.toNat) else none

/-- The signs after `|` or `>`: chomping and indentation in either order. -/
def blockHeader (c : Cursor) : Except Error (Chomping × Option Nat × Cursor) := do
  let (chomp, increment, c) := match chomping? c.peek? with
    | some chomp =>
      let c := c.next
      match increment? c.peek? with
      | some n => (chomp, some n, c.next)
      | none => (chomp, none, c)
    | none =>
      match increment? c.peek? with
      | none => (.clip, none, c)
      | some n =>
        let c := c.next
        match chomping? c.peek? with
        | some chomp => (chomp, some n, c.next)
        | none => (.clip, some n, c)
  if increment = some 0 || !endsWord c.peek? then throw .malformed
  return (chomp, increment, c)

/-- The rest of a line that may hold a comment only. -/
def blankLine (c : Cursor) : Except Error Cursor :=
  let c := c.skipSpaces.skipComment
  if endsLine c.peek? then .ok ((c.lineBreak?.map Prod.snd).getD c) else .error .malformed

/-- Empty lines before a block, and the widest indentation among them and the first
line of the block. -/
def blockIndent (c : Cursor) (widest : Nat) : Nat → List Char × Nat × Cursor
  | 0 => ([], widest, c)
  | fuel + 1 =>
    if c.isAt ' ' then
      let c := c.next
      blockIndent c (max widest c.column) fuel
    else
      match c.lineBreak? with
      | none => ([], widest, c)
      | some (b, c) =>
        let (breaks, widest, c) := blockIndent c widest fuel
        (b :: breaks, widest, c)

/-- The cursor behind spaces, but not beyond a column. -/
def skipIndent (c : Cursor) (indent : Nat) : Cursor :=
  c.skip ((c.rest.take (indent - c.column)).takeWhile (· = ' ')).length

/-- Empty lines in a block, and the indentation of the next line. -/
def blockBreaks (indent : Nat) (c : Cursor) : Nat → List Char × Cursor
  | 0 => ([], c)
  | fuel + 1 =>
    let c := skipIndent c indent
    match c.lineBreak? with
    | none => ([], c)
    | some (b, c) =>
      let (breaks, c) := blockBreaks indent c fuel
      (b :: breaks, c)

/-- The lines of a block from an indented one on: their text, the end of the last
line, the empty lines behind it, and the cursor. -/
def blockLines (folded : Bool) (indent : Nat) (breaks : List Char) (c : Cursor) :
    Nat → List Char × List Char × List Char × Cursor
  | 0 => ([], [], breaks, c)
  | fuel + 1 =>
    if c.column ≠ indent || c.peek?.isNone then ([], [], breaks, c)
    else
      let flush := !c.peek?.any isSpaceOrTab
      let (line, c) := c.span (!isBreak ·)
      let text := breaks ++ line
      let (lineBreak, c) := match c.lineBreak? with
        | some (b, c) => ([b], c)
        | none => ([], c)
      let (breaks, c) := blockBreaks indent c (c.rest.length + 1)
      if c.column ≠ indent || c.peek?.isNone then (text, lineBreak, breaks, c)
      else
        let joint :=
          if folded && lineBreak = ['\n'] && flush && !c.peek?.any isSpaceOrTab then
            if breaks.isEmpty then [' '] else []
          else lineBreak
        let (more, lineBreak, breaks, c) := blockLines folded indent breaks c fuel
        (text ++ joint ++ more, lineBreak, breaks, c)

/-- A block scalar; the cursor is at its `|` or `>`, and `parent` is the
indentation of what it belongs to. -/
def blockScalar (parent : Int) (c : Cursor) : Except Error (List Char × Cursor) := do
  let folded := c.isAt '>'
  let (chomp, increment?, c) ← blockHeader c.next
  let c ← blankLine c
  let least := max 1 (parent + 1).toNat
  let fuel := c.rest.length + 1
  let (breaks, indent, c) := match increment? with
    | some n =>
      let indent := least + n - 1
      let (breaks, c) := blockBreaks indent c fuel
      (breaks, indent, c)
    | none =>
      let (breaks, widest, c) := blockIndent c 0 fuel
      (breaks, max least widest, c)
  let (text, lineBreak, breaks, c) := blockLines folded indent breaks c fuel
  let text := match chomp with
    | .strip => text
    | .clip => text ++ lineBreak
    | .keep => text ++ lineBreak ++ breaks
  return (text, c)

end ChipEight.Yaml
