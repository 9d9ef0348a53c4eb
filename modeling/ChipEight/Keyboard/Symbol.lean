/-
# Symbols of physical keys

Each key of a keyboard has a number: an ASCII key its character code, letters in
lower case, the others a number from `0xff08` on. A name is looked up in upper case
if it is all letters, and as a digit otherwise.

The table of the numbers also knows its own name and holds two collections, and a
name that is not all letters can hit upon these (`Symbol.find`).
-/

namespace ChipEight.Keyboard

/-- What a name of a key can stand for. -/
inductive Symbol
  /-- The number of a key. -/
  | number (n : Nat)
  /-- The name of the table. -/
  | title (s : String)
  deriving DecidableEq, Repr

namespace Symbol

/-- The keys with names of letters only. -/
def named : List (String × Nat) := [
  ("BACKSPACE", 0xff08), ("TAB", 0xff09), ("LINEFEED", 0xff0a), ("CLEAR", 0xff0b),
  ("RETURN", 0xff0d), ("ENTER", 0xff0d), ("PAUSE", 0xff13), ("SCROLLLOCK", 0xff14),
  ("SYSREQ", 0xff15), ("ESCAPE", 0xff1b), ("HOME", 0xff50), ("LEFT", 0xff51), ("UP", 0xff52),
  ("RIGHT", 0xff53), ("DOWN", 0xff54), ("PAGEUP", 0xff55), ("PAGEDOWN", 0xff56),
  ("END", 0xff57), ("BEGIN", 0xff58), ("DELETE", 0xffff), ("SELECT", 0xff60),
  ("PRINT", 0xff61), ("EXECUTE", 0xff62), ("INSERT", 0xff63), ("UNDO", 0xff65),
  ("REDO", 0xff66), ("MENU", 0xff67), ("FIND", 0xff68), ("CANCEL", 0xff69), ("HELP", 0xff6a),
  ("BREAK", 0xff6b), ("MODESWITCH", 0xff7e), ("SCRIPTSWITCH", 0xff7e), ("FUNCTION", 0xffd2),
  ("NUMLOCK", 0xff7f), ("LSHIFT", 0xffe1), ("RSHIFT", 0xffe2), ("LCTRL", 0xffe3),
  ("RCTRL", 0xffe4), ("CAPSLOCK", 0xffe5), ("LMETA", 0xffe7), ("RMETA", 0xffe8),
  ("LALT", 0xffe9), ("RALT", 0xffea), ("LWINDOWS", 0xffeb), ("RWINDOWS", 0xffec),
  ("LCOMMAND", 0xffed), ("RCOMMAND", 0xffee), ("LOPTION", 0xffef), ("ROPTION", 0xfff0),
  ("SPACE", 0x20), ("EXCLAMATION", 0x21), ("DOUBLEQUOTE", 0x22), ("HASH", 0x23),
  ("POUND", 0x23), ("DOLLAR", 0x24), ("PERCENT", 0x25), ("AMPERSAND", 0x26),
  ("APOSTROPHE", 0x27), ("PARENLEFT", 0x28), ("PARENRIGHT", 0x29), ("ASTERISK", 0x2a),
  ("PLUS", 0x2b), ("COMMA", 0x2c), ("MINUS", 0x2d), ("PERIOD", 0x2e), ("SLASH", 0x2f),
  ("COLON", 0x3a), ("SEMICOLON", 0x3b), ("LESS", 0x3c), ("EQUAL", 0x3d), ("GREATER", 0x3e),
  ("QUESTION", 0x3f), ("AT", 0x40), ("BRACKETLEFT", 0x5b), ("BACKSLASH", 0x5c),
  ("BRACKETRIGHT", 0x5d), ("ASCIICIRCUM", 0x5e), ("UNDERSCORE", 0x5f), ("GRAVE", 0x60),
  ("QUOTELEFT", 0x60), ("BRACELEFT", 0x7b), ("BAR", 0x7c), ("BRACERIGHT", 0x7d),
  ("ASCIITILDE", 0x7e)]

/-- The escape key. -/
def escape : Nat := 0xff1b

/-- The first function key. -/
def f1 : Nat := 0xffbe

/-- The upper-case letters of a letter, where they are ASCII; else the letter. -/
def upper (c : Char) : List Char :=
  match [('ı', "I"), ('ſ', "S"), ('ß', "SS"), ('ﬀ', "FF"), ('ﬁ', "FI"), ('ﬂ', "FL"),
      ('ﬃ', "FFI"), ('ﬄ', "FFL"), ('ﬅ', "ST"), ('ﬆ', "ST")].lookup c with
  | some s => s.toList
  | none => [c.toUpper]

/-- The number of a key by its name. -/
def ofName? (name : String) : Option Nat :=
  match name.toList.flatMap upper with
  | [c] =>
    if 'A' ≤ c ∧ c ≤ 'Z' then some (c.toNat - 'A'.toNat + 'a'.toNat)
    else if '0' ≤ c ∧ c ≤ '9' then some c.toNat
    else none
  | cs => named.lookup (String.ofList cs)

/-- Names that hit upon the name of the table or of what it is a part of. -/
def titles : List (String × String) :=
  [("_name__", "pyglet.window.key"), ("_package__", "pyglet.window")]

/-- Names that hit upon a collection in the table, or upon one that describes it. -/
def collections : List String :=
  ["key_names", "motion_names", "_builtins__", "_dict__", "_spec__", "_annotations__"]

/-- Why a name gives no symbol. -/
inductive Error
  /-- There is no key of this name. -/
  | unknownName (name : String)
  /-- The name stands for a collection, which is no symbol. -/
  | noSymbol (name : String)
  deriving DecidableEq, Repr

/-- What a name stands for. -/
def find (name : String) : Except Error Symbol :=
  match ofName? name, titles.lookup name with
  | some n, _ => .ok (.number n)
  | none, some s => .ok (.title s)
  | none, none => .error (if collections.contains name then .noSymbol name else .unknownName name)

end Symbol
end ChipEight.Keyboard
