/-
# A window worked by lines

Without a display a window is worked through text: each event is a line of words
(`Window.Event.ofLine?`), and each call on the display is some lines back
(`Window.Call.lines`).

| line | event |
| --- | --- |
| `frame` | the clock asks for a frame |
| `bench S` | the clock asks for the counters after `S` seconds |
| `draw` | the picture is wanted |
| `press N`, `release N` | the key of number `N` goes down, comes up |
| `deactivate` | the window is no longer in front |
-/

import ChipEight.Numeral.Plain
import ChipEight.Window

namespace ChipEight.Window

/-- The words of a line. -/
def words (line : String) : List String :=
  let spaced := line.map fun c => if c.isWhitespace then ' ' else c
  (spaced.splitOn " ").filter fun word => !word.isEmpty

/-- The event of a line, if it is one. -/
def Event.ofLine? (line : String) : Option Event :=
  match words line with
  | ["frame"] => some .frame
  | ["bench", seconds] => (Numeral.readReal seconds).map .bench
  | ["draw"] => some .draw
  | ["press", symbol] => (Numeral.readInt symbol).toOption.map .press
  | ["release", symbol] => (Numeral.readInt symbol).toOption.map .release
  | ["deactivate"] => some .deactivate
  | _ => none

/-- A call as lines; what is put in the window is shown as the screen's lines. -/
def Call.lines (w : Window) : Call → List String
  | openWindow width height caption _ =>
    ["window " ++ toString width ++ " " ++ toString height ++ " " ++ caption]
  | newImage width height _ => ["image " ++ toString width ++ " " ++ toString height]
  | newLabel label => ["label " ++ label.text]
  | setImage _ bytes => ["picture " ++ toString bytes.length]
  | clear => ["clear"]
  | blit _ _ => w.machine.screen.rows
  | drawLabel text => ["text " ++ text]

/-- Wording of what went wrong in a reaction. -/
def Problem.message : Problem → String
  | noTime => "no time has passed since the counters were renewed"
  | noSuchKey => "the keymap names a key that does not exist"
  | badSnapshot => "the snapshot is not of sixteen keys"

end ChipEight.Window
