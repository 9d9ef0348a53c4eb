/-
# The window

A window shows the screen of a machine and two counters, and works its keypad from
a keyboard. It reacts to events (`Window.handle`): the clock runs a frame or renews
the counters, a redraw brings the picture up to date, keys go down and up. A
reaction lists the calls made on the display and the records logged; a machine that
stops takes its frames off the clock and says so in the caption.

The picture is rendered again only when the screen is marked dirty.
-/

import ChipEight.Keyboard
import ChipEight.Keyboard.Layout
import ChipEight.Log
import ChipEight.Machine.Trace
import ChipEight.Numeral.Fixed
import ChipEight.Picture

namespace ChipEight

/-- A line of text on a window. -/
structure Label where
  text : String
  fontSize : Nat := 12
  x : Int := 5
  y : Int
  anchorX : String := "left"
  anchorY : String := "center"
  color : List Nat := [255, 0, 0, 255]
  deriving DecidableEq, Repr

namespace Window

/-- What is asked of the display. -/
inductive Call
  | openWindow (width height : Nat) (caption : String) (vsync : Bool)
  | newImage (width height : Nat) (bytes : List UInt8)
  | newLabel (label : Label)
  | setImage (pitch : Nat) (bytes : List UInt8)
  | clear
  | blit (x y : Int)
  | drawLabel (text : String)
  deriving DecidableEq, Repr

/-- What can happen to a window. -/
inductive Event
  /-- The clock asks for a frame. -/
  | frame
  /-- The clock asks for the counters, so many seconds after the last time. -/
  | bench (seconds : Float)
  /-- The picture is wanted. -/
  | draw
  | press (symbol : Int)
  | release (symbol : Int)
  /-- The window is no longer in front. -/
  | deactivate

/-- What went wrong in a reaction. -/
inductive Problem
  /-- No time passed between two looks at the counters. -/
  | noTime
  /-- A keymap names a key that does not exist. -/
  | noSuchKey
  /-- A snapshot was not of sixteen keys. -/
  | badSnapshot
  deriving DecidableEq, Repr

/-- What a window did about an event. -/
structure Reaction where
  calls : List Call := []
  records : List Log.Record := []
  /-- For a frame: it was on the clock. -/
  fired? : Option Bool := none
  problem? : Option Problem := none

end Window

/-- A window on a machine. -/
structure Window where
  machine : Machine
  keyboard : Keyboard Int
  /-- The bytes last given to the image. -/
  image : List UInt8
  fpsText : String
  cpsText : String
  /-- Redraws since the counters were last renewed. -/
  draws : Nat
  /-- Cycles of the machine when the counters were last renewed. -/
  benchCycles : Nat
  /-- Frames are on the clock. -/
  running : Bool
  caption : String
  closed : Bool
  /-- The threshold of the log. -/
  threshold : Log.Level

namespace Window

/-- What the window is called. -/
def title : String := "CHIP-8 Emulator"

/-- Seconds between two looks at the counters. -/
def benchInterval : Float := 1

/-- The screen as pixel values. -/
def pixelsOf (s : Screen 64 32) : List (List UInt8) :=
  s.pixels.toList.map fun line => line.toList.map fun lit => if lit then 1 else 0

/-- Window pixels for a screen pixel. -/
def scale (w : Window) : Nat := w.machine.config.scale

/-- Width of the window. -/
def width (w : Window) : Nat := 64 * w.scale

/-- Height of the window. -/
def height (w : Window) : Nat := 32 * w.scale

/-- The bytes of the screen as it is. -/
def picture (w : Window) : List UInt8 := Picture.render (pixelsOf w.machine.screen) w.scale

/-- Seconds between two frames. -/
def frameSeconds (w : Window) : Float := w.machine.config.frameSeconds

/-- A window on a machine, and the calls that open it. -/
def ofMachine (machine : Machine) (threshold : Log.Level) : Window × List Call :=
  let w : Window := {
    machine
    keyboard := { keymap := Keyboard.Layout.standardKeymap }
    image := []
    fpsText := "FPS: 0"
    cpsText := "Cycles/s: 0"
    draws := 0
    benchCycles := machine.cycles
    running := true
    caption := title
    closed := false
    threshold }
  let w := { w with image := w.picture }
  let top : Int := w.height
  (w, [
    .openWindow w.width w.height title false,
    .newImage w.width w.height w.image,
    .newLabel { text := w.fpsText, y := top - 15 },
    .newLabel { text := w.cpsText, y := top - 30 }])

/-- Opens a window on a machine, if there is room for its picture. -/
def openOn (machine : Machine) (threshold : Log.Level) :
    Except Room.Error (Window × List Call) := do
  discard (Picture.checkRoom 64 32 machine.config.scale)
  return ofMachine machine threshold

/-- The machine has stopped: no more frames, and the caption says why. -/
def stop (w : Window) (halt : Halt) : Window :=
  { w with running := false, caption := title ++ " - halted: " ++ halt.message }

/-- Runs a frame with the keys as they are. -/
def runFrame (w : Window) : Window × Reaction :=
  match w.machine.runFrame (some w.keyboard.snapshot) with
  | .error _ => (w, { fired? := some true, problem? := some .badSnapshot })
  | .ok (machine, report) =>
    let w := { w with machine := machine }
    let records := report.records
    match report.halt? with
    | none => (w, { fired? := some true, records })
    | some halt =>
      let stopped : Log.Record := ⟨.error, .ofString ("Emulation stopped: " ++ halt.message)⟩
      (w.stop halt, { fired? := some true, records := records ++ [stopped] })

/-- A count over a time. -/
def rate (count : Int) (seconds : Float) : Float := Numeral.Double.ofInt count / seconds

/-- Renews the counters. -/
def bench (w : Window) (seconds : Float) : Window × Reaction :=
  if seconds == 0 then (w, { problem? := some .noTime })
  else
    let cycles := w.machine.cycles
    ({ w with
      fpsText := "FPS: " ++ Numeral.fixed 1 (rate w.draws seconds)
      cpsText := "Cycles/s: " ++ Numeral.fixed 0 (rate (cycles - w.benchCycles) seconds)
      draws := 0
      benchCycles := cycles }, {})

/-- Brings the image up to date if the screen is dirty. -/
def refresh (w : Window) : Window × List Call :=
  if w.machine.screen.dirty then
    let image := w.picture
    ({ w with image, machine := { w.machine with screen := w.machine.screen.clean } },
      [.setImage (w.width * 4) image])
  else (w, [])

/-- Shows the image and the counters. -/
def draw (w : Window) : Window × Reaction :=
  let (w, calls) := w.refresh
  ({ w with draws := w.draws + 1 },
    { calls := calls ++ [.clear, .blit 0 0, .drawLabel w.fpsText, .drawLabel w.cpsText] })

/-- Turns the trace of every instruction on or off. -/
def toggleDebug (w : Window) : Window × Reaction :=
  let threshold := if w.threshold = .debug then Log.Level.warning else .debug
  let state := if threshold = .debug then "on" else "off"
  ({ w with threshold }, { records := [⟨.warning, .ofString ("Debug trace " ++ state)⟩] })

/-- Moves a key of the keyboard. -/
def moveKey (w : Window) (symbol : Int) (isDown : Bool) : Window × Reaction :=
  match w.keyboard.move symbol isDown with
  | .ok (keyboard, _) => ({ w with keyboard }, {})
  | .error _ => (w, { problem? := some .noSuchKey })

/-- Reacts to an event. The records are those that pass the threshold. -/
def handle (w : Window) (e : Event) : Window × Reaction :=
  let (w, reaction) : Window × Reaction := match e with
    | .frame => if w.running then w.runFrame else (w, { fired? := some false })
    | .bench seconds => w.bench seconds
    | .draw => w.draw
    | .press symbol =>
      if symbol = Keyboard.Symbol.escape then ({ w with closed := true }, {})
      else if symbol = Keyboard.Symbol.f1 then w.toggleDebug
      else w.moveKey symbol true
    | .release symbol => w.moveKey symbol false
    | .deactivate => ({ w with keyboard := w.keyboard.releaseAll }, {})
  (w, { reaction with records := Log.atLeast w.threshold reaction.records })

end Window
end ChipEight
