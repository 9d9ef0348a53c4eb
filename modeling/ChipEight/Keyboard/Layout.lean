/-
# Layouts

A layout gives hex keys to the names of physical keys. The standard one puts the
keypad on the left of a keyboard:

| keyboard | keypad |
| --- | --- |
| `1 2 3 4` | `1 2 3 C` |
| `Q W E R` | `4 5 6 D` |
| `A S D F` | `7 8 9 E` |
| `Z X C V` | `A 0 B F` |
-/

import ChipEight.Keyboard.Symbol

namespace ChipEight.Keyboard

/-- Key names with the hex keys they work. -/
abbrev Layout := List (String × Int)

namespace Layout

/-- The keypad on the left of a keyboard. -/
def standard : Layout := [
  ("1", 0x1), ("2", 0x2), ("3", 0x3), ("4", 0xC),
  ("q", 0x4), ("w", 0x5), ("e", 0x6), ("r", 0xD),
  ("a", 0x7), ("s", 0x8), ("d", 0x9), ("f", 0xE),
  ("z", 0xA), ("x", 0x0), ("c", 0xB), ("v", 0xF)]

/-- The layout by symbols, if every name gives one. -/
def symbols (layout : Layout) : Except Symbol.Error (List (Symbol × Int)) :=
  layout.mapM fun (name, key) => (Symbol.find name).map fun symbol => (symbol, key)

/-- The layout by key numbers, if every name gives one. -/
def keymap (layout : Layout) : Except Symbol.Error (List (Int × Int)) :=
  layout.mapM fun (name, key) =>
    match Symbol.ofName? name with
    | some number => .ok ((number : Int), key)
    | none => .error (.unknownName name)

/-- The standard layout by key numbers. -/
def standardKeymap : List (Int × Int) :=
  match standard.keymap with
  | .ok keymap => keymap
  | .error _ => []

end Layout
end ChipEight.Keyboard
