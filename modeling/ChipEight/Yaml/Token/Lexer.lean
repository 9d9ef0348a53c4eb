/-
# From text to tokens

Block structure follows indentation: a column further in than the current one
opens a collection, a column further out closes all that started beyond it. A
scalar or a bracket may turn out to be a key when a colon follows on its line; so
each place where a key could start is remembered (`SimpleKey`), and the key token
is put in front of it later.

A text that cannot be read on ends the tokens with an error (`Tokens.error?`). The
tokens before it still count, as far as they are settled (`Lexer.settled`): a token
that may yet turn out to be a key is none until the text behind it has been read.
-/

import ChipEight.Yaml.Token
import ChipEight.Yaml.Token.Scalar

namespace ChipEight.Yaml

/-- A place where a key may have started. -/
structure SimpleKey where
  /-- The number of tokens before it. -/
  token : Nat
  /-- Nothing else can stand here. -/
  required : Bool
  index : Nat
  line : Nat
  column : Nat

/-- How far a text has been read. -/
structure Lexer where
  cursor : Cursor
  tokens : Array Token := #[]
  /-- Open brackets. -/
  flow : Nat := 0
  /-- The column of the innermost block collection; minus one outside all. -/
  indent : Int := -1
  /-- The columns around it, innermost first. -/
  indents : List Int := []
  /-- A key may start here. -/
  allowKey : Bool := true
  /-- Possible keys, by the number of open brackets. -/
  keys : List (Nat × SimpleKey) := []

/-- The longest key, in characters. -/
def maxKey : Nat := 1024

/-- A letter, a digit, a dash or an underscore. -/
def isNameChar (c : Char) : Bool :=
  ('0' ≤ c && c ≤ '9') || ('A' ≤ c && c ≤ 'Z') || ('a' ≤ c && c ≤ 'z') || c = '-' || c = '_'

/-- A character of a tag. -/
def isTagChar (c : Char) : Bool :=
  isNameChar c || ";/?:@&=+$,.!~*'()[]".toList.contains c

namespace Lexer

/-- Adds a token. -/
def push (l : Lexer) (t : Token) : Lexer := { l with tokens := l.tokens.push t }

/-- The lexer at another place. -/
def moveTo (l : Lexer) (c : Cursor) : Lexer := { l with cursor := c }

/-- Outside all brackets. -/
def inBlock (l : Lexer) : Bool := l.flow = 0

/-- Closes the block collections that start beyond a column. -/
def unwind (l : Lexer) (column : Int) : Lexer :=
  if l.inBlock then close l l.indents else l
where
  close (l : Lexer) : List Int → Lexer
    | [] => l
    | outer :: rest =>
      if column < l.indent then
        close { l.push .blockEnd with indent := outer, indents := rest } rest
      else l

/-- Opens a block collection at a column further in; nothing otherwise. -/
def open? (l : Lexer) (column : Int) : Option Lexer :=
  if l.indent < column then some { l with indent := column, indents := l.indent :: l.indents }
  else none

/-- The place can no longer be that of a key: it is on an earlier line or too far
away. -/
def isStale (l : Lexer) (k : SimpleKey) : Bool :=
  k.line ≠ l.cursor.line || maxKey < l.cursor.index - k.index

/-- Drops the possible keys that no longer are. A required one cannot be dropped. -/
def dropStale (l : Lexer) : Except Error Lexer :=
  if l.keys.any fun (_, k) => l.isStale k && k.required then .error .malformed
  else .ok { l with keys := l.keys.filter fun (_, k) => !l.isStale k }

/-- The tokens that no key will be put among any more: those before the first place
of a possible key. -/
def settled (l : Lexer) : List Token :=
  let places := (l.keys.filter fun (_, k) => !l.isStale k).map fun (_, k) => k.token
  l.tokens.toList.take (places.foldl min l.tokens.size)

/-- Drops the possible key of the current level. -/
def dropKey (l : Lexer) : Except Error Lexer :=
  match l.keys.lookup l.flow with
  | none => .ok l
  | some k =>
    if k.required then .error .malformed
    else .ok { l with keys := l.keys.filter fun (level, _) => level ≠ l.flow }

/-- Remembers that a key may start here. -/
def saveKey (l : Lexer) : Except Error Lexer :=
  if !l.allowKey then .ok l
  else do
    let l ← l.dropKey
    let c := l.cursor
    let required := l.inBlock && l.indent = c.column
    return { l with
      keys := (l.flow, ⟨l.tokens.size, required, c.index, c.line, c.column⟩) :: l.keys }

/-- Blanks, comments and line ends up to the next token. -/
def toNextToken (l : Lexer) : Nat → Lexer
  | 0 => l
  | fuel + 1 =>
    let c := l.cursor.skipSpaces.skipComment
    match c.lineBreak? with
    | none => l.moveTo c
    | some (_, c) => toNextToken { l with cursor := c, allowKey := l.allowKey || l.inBlock } fuel

/-- A name after its mark; what follows must not go on. -/
def name (c : Cursor) : Except Error (String × Cursor) :=
  let (cs, c) := c.span isNameChar
  let ends := endsToken c.peek? || c.peek?.any fun ch => "?:,]\x7d%@\x60".toList.contains ch
  if cs.isEmpty || !ends then .error .malformed else .ok (String.ofList cs, c)

/-- Bytes written as a percent sign and two digits each. -/
def percentBytes (c : Cursor) : Nat → Except Error (List UInt8 × Cursor)
  | 0 => .ok ([], c)
  | fuel + 1 =>
    if !c.isAt '%' then .ok ([], c)
    else do
      let digits := c.rest.drop 1 |>.take 2
      if digits.length < 2 then throw .malformed
      let some code := hexValue? digits | throw .malformed
      let (more, c) ← percentBytes (c.skip 3) fuel
      return (UInt8.ofNat code :: more, c)

/-- The characters of a tag, percent signs decoded; the flag says that there were
any. -/
def tagChars (c : Cursor) : Nat → Except Error (List Char × Bool × Cursor)
  | 0 => .ok ([], false, c)
  | fuel + 1 => do
    let (cs, c) := c.span isTagChar
    if !c.isAt '%' then return (cs, !cs.isEmpty, c)
    let (bytes, c) ← percentBytes c (c.rest.length + 1)
    let some part := String.fromUTF8? bytes.toByteArray | throw .malformed
    let (more, _, c) ← tagChars c fuel
    return (cs ++ part.toList ++ more, true, c)

/-- The name part of a tag. -/
def tagName (c : Cursor) : Except Error (String × Cursor) := do
  let (cs, any, c) ← tagChars c (c.rest.length + 1)
  if !any then throw .malformed
  return (String.ofList cs, c)

/-- The handle of a tag: one exclamation mark, or a name between two. -/
def tagHandle (c : Cursor) : Except Error (String × Cursor) := do
  if !c.isAt '!' then throw .malformed
  if c.at? 1 = some ' ' then return ("!", c.next)
  let (cs, rest) := c.next.span isNameChar
  if !rest.isAt '!' then throw .malformed
  return (String.ofList ('!' :: cs ++ ['!']), rest.next)

/-- A tag, with the blank or the line end behind it still there. -/
def tag (c : Cursor) : Except Error (Token × Cursor) := do
  let (t, c) ← (do
    if c.at? 1 = some '<' then
      let (suffix, c) ← tagName (c.skip 2)
      if !c.isAt '>' then throw .malformed
      return (Token.tag none suffix, c.next)
    else if endsToken (c.at? 1) then return (Token.tag none "!", c.next)
    else
      let word := c.next.rest.takeWhile fun ch => !endsWord (some ch)
      let (handle, c) ← if word.contains '!' then tagHandle c else pure ("!", c.next)
      let (suffix, c) ← tagName c
      return (Token.tag (some handle) suffix, c))
  if !endsWord c.peek? then throw .malformed
  return (t, c)

/-- A number in a version. -/
def versionNumber (c : Cursor) : Except Error (Nat × Cursor) :=
  let (cs, c) := c.span Numeral.isAsciiDigit
  if cs.isEmpty then .error .malformed
  else if Numeral.maxDigits < cs.length then .error (.scalar .badNumber)
  else .ok (Numeral.ofDigits 10 (cs.map fun ch => ch.toNat - '0'.toNat), c)

/-- A line that starts with a percent sign. -/
def directive (c : Cursor) : Except Error (Directive × Cursor) := do
  let (cs, c) := c.next.span isNameChar
  if cs.isEmpty || !endsWord c.peek? then throw .malformed
  let (d, c) ← (match String.ofList cs with
    | "YAML" => do
      let (major, c) ← versionNumber c.skipSpaces
      if !c.isAt '.' then throw .malformed
      let (minor, c) ← versionNumber c.next
      if !endsWord c.peek? then throw .malformed
      return (Directive.version major minor, c)
    | "TAG" => do
      let (handle, c) ← tagHandle c.skipSpaces
      if !c.isAt ' ' then throw .malformed
      let (start, c) ← tagName c.skipSpaces
      if !endsWord c.peek? then throw .malformed
      return (Directive.tagHandle handle start, c)
    | _ => return (Directive.other, c.skipWhile (!isBreak ·)))
  return (d, ← blankLine c)

/-! ## One token -/

/-- A line of its own that stands for the whole document. -/
def fetchDirective (l : Lexer) : Except Error Lexer := do
  let l ← (l.unwind (-1)).dropKey
  let (d, c) ← directive l.cursor
  return { l with cursor := c, allowKey := false }.push (.directive d)

/-- A document starts or ends. -/
def fetchBorder (l : Lexer) (t : Token) : Except Error Lexer := do
  let l ← (l.unwind (-1)).dropKey
  return { l with cursor := l.cursor.skip 3, allowKey := false }.push t

/-- A bracket opens. -/
def fetchOpen (l : Lexer) (t : Token) : Except Error Lexer := do
  let l ← l.saveKey
  return { l with cursor := l.cursor.next, flow := l.flow + 1, allowKey := true }.push t

/-- A bracket closes. -/
def fetchClose (l : Lexer) (t : Token) : Except Error Lexer := do
  let l ← l.dropKey
  if l.inBlock then throw .malformed
  return { l with cursor := l.cursor.next, flow := l.flow - 1, allowKey := false }.push t

/-- A comma between brackets. -/
def fetchFlowEntry (l : Lexer) : Except Error Lexer := do
  let l ← l.dropKey
  return { l with cursor := l.cursor.next, allowKey := true }.push .flowEntry

/-- Opens a block collection here if the column is further in. -/
def openHere (l : Lexer) (t : Token) : Except Error Lexer :=
  if !l.inBlock then .ok l
  else if !l.allowKey then .error .malformed
  else .ok (((l.open? l.cursor.column).map (·.push t)).getD l)

/-- The dash of a sequence. -/
def fetchBlockEntry (l : Lexer) : Except Error Lexer := do
  let l ← l.openHere .blockSequenceStart
  let l ← { l with allowKey := true }.dropKey
  return (l.moveTo l.cursor.next).push .blockEntry

/-- The question mark of a key. -/
def fetchKey (l : Lexer) : Except Error Lexer := do
  let l ← l.openHere .blockMappingStart
  let l ← { l with allowKey := l.inBlock }.dropKey
  return (l.moveTo l.cursor.next).push .key

/-- The colon of a value; if a key may have started, it has. -/
def fetchValue (l : Lexer) : Except Error Lexer := do
  let l ← match l.keys.lookup l.flow with
    | some k =>
      let l := { l with
        keys := l.keys.filter fun (level, _) => level ≠ l.flow
        tokens := l.tokens.insertIdxIfInBounds k.token .key
        allowKey := false }
      let opened? := if l.inBlock then l.open? k.column else none
      pure (match opened? with
        | some l => { l with tokens := l.tokens.insertIdxIfInBounds k.token .blockMappingStart }
        | none => l)
    | none => do
      let l ← l.openHere .blockMappingStart
      { l with allowKey := l.inBlock }.dropKey
  return (l.moveTo l.cursor.next).push .value

/-- A reference to an anchor, or an anchor. -/
def fetchName (l : Lexer) (t : String → Token) : Except Error Lexer := do
  let l ← l.saveKey
  let (s, c) ← name l.cursor.next
  return { l with cursor := c, allowKey := false }.push (t s)

/-- A tag. -/
def fetchTag (l : Lexer) : Except Error Lexer := do
  let l ← l.saveKey
  let (t, c) ← tag l.cursor
  return { l with cursor := c, allowKey := false }.push t

/-- A block of text. -/
def fetchBlockScalar (l : Lexer) : Except Error Lexer := do
  let l ← { l with allowKey := true }.dropKey
  let (cs, c) ← blockScalar l.indent l.cursor
  return (l.moveTo c).push (.scalar (.ofList cs) false)

/-- A text in quotes. -/
def fetchQuoted (l : Lexer) : Except Error Lexer := do
  let l ← l.saveKey
  let (text, c) ← quotedScalar l.cursor
  return { l with cursor := c, allowKey := false }.push (.scalar text false)

/-- A plain text. -/
def fetchPlain (l : Lexer) : Except Error Lexer := do
  let l ← l.saveKey
  let (cs, c, ended) := plainScalar (!l.inBlock) (l.indent + 1).toNat l.cursor
  return { l with cursor := c, allowKey := ended }.push (.scalar (.ofList cs) true)

/-- A plain text can start with this character. -/
def startsPlain (l : Lexer) (ch : Char) : Bool :=
  let goesOn := !endsToken (l.cursor.at? 1)
  !(endsToken (some ch) || "-?:,[]\x7b\x7d#&*!|>'\"%@\x60".toList.contains ch)
    || (goesOn && (ch = '-' || (l.inBlock && (ch = '?' || ch = ':'))))

/-- Reads the token that starts here. -/
def fetch (l : Lexer) (ch : Char) : Except Error Lexer :=
  let c := l.cursor
  let alone := endsToken (c.at? 1)
  if ch = '%' && c.column = 0 then l.fetchDirective
  else if c.column = 0 && c.atMarker '-' then l.fetchBorder .documentStart
  else if c.column = 0 && c.atMarker '.' then l.fetchBorder .documentEnd
  else if ch = '[' then l.fetchOpen .flowSequenceStart
  else if ch = '\x7b' then l.fetchOpen .flowMappingStart
  else if ch = ']' then l.fetchClose .flowSequenceEnd
  else if ch = '\x7d' then l.fetchClose .flowMappingEnd
  else if ch = ',' then l.fetchFlowEntry
  else if ch = '-' && alone then l.fetchBlockEntry
  else if ch = '?' && (alone || !l.inBlock) then l.fetchKey
  else if ch = ':' && (alone || !l.inBlock) then l.fetchValue
  else if ch = '*' then l.fetchName .alias
  else if ch = '&' then l.fetchName .anchor
  else if ch = '!' then l.fetchTag
  else if (ch = '|' || ch = '>') && l.inBlock then l.fetchBlockScalar
  else if ch = '\'' || ch = '"' then l.fetchQuoted
  else if l.startsPlain ch then l.fetchPlain
  else .error .malformed

/-- Closes all that is open at the end of the text. -/
def finish (l : Lexer) : Except Error Lexer := (l.unwind (-1)).dropKey

end Lexer

/-- The tokens of a text, up to its end or to an error. -/
structure Tokens where
  tokens : List Token
  error? : Option Error

/-- The lexer behind the next token, and whether the text goes on. -/
def Lexer.advance (l : Lexer) (fuel : Nat) : Except Error (Lexer × Bool) := do
  let l ← (l.toNextToken fuel).dropStale
  let l := l.unwind l.cursor.column
  match l.cursor.peek? with
  | none => return (← l.finish, false)
  | some ch => return (← l.fetch ch, true)

/-- Reads token after token. -/
def Lexer.run (l : Lexer) : Nat → Tokens
  | 0 => ⟨l.settled, some .malformed⟩
  | fuel + 1 =>
    match l.advance (fuel + 1) with
    | .error e => ⟨l.settled, some e⟩
    | .ok (l, true) => l.run fuel
    | .ok (l, false) => ⟨l.tokens.toList, none⟩

/-- The tokens of a text. A byte order mark in front is passed over, and a text with
a character that may not stand in a document has no tokens. -/
def Tokens.ofText (cs : List Char) : Tokens :=
  if cs.all isAllowed then
    let start : Cursor := ⟨unifyBreaks cs, 0, 0, 0⟩
    let start := if start.isAt '\uFEFF' then start.next else start
    Lexer.run { cursor := start } (cs.length + 1)
  else ⟨[], some .malformed⟩

end ChipEight.Yaml
