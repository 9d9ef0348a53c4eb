/-
# Tokens of a document

The marks, names and scalars of a text, with the nesting that indentation shows
made explicit by start and end tokens.
-/

import ChipEight.Text

namespace ChipEight.Yaml

/-- A line that starts with a percent sign. -/
inductive Directive
  | version (major minor : Nat)
  | tagHandle (handle tagStart : String)
  | other
  deriving DecidableEq, Repr

/-- The tokens. -/
inductive Token
  | directive (d : Directive)
  | documentStart | documentEnd
  | blockSequenceStart | blockMappingStart | blockEnd
  | flowSequenceStart | flowSequenceEnd | flowMappingStart | flowMappingEnd
  | blockEntry | flowEntry | key | value
  | alias (name : String)
  | anchor (name : String)
  | tag (handle? : Option String) (suffix : String)
  | scalar (text : Text) (isPlain : Bool)
  deriving DecidableEq, Repr

end ChipEight.Yaml
