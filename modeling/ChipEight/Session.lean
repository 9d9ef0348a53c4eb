/-
# A run of the program

The command line is read, the configuration made from the file it names and the
options laid over it, the program file read and loaded, and a window opened on the
machine. Each way this can end early is a `Start`; records are logged on the way.
Then events are played on the window, and the run is a success unless the machine
stopped.
-/

import ChipEight.CommandLine
import ChipEight.Config.Load
import ChipEight.Window

namespace ChipEight.Session

open CommandLine

/-- The interval that a frame rate asks for, laid over the settings. -/
def rateOverlay : Value → Except Config.Error Config.Overlay
  | .null => .ok []
  | .float rate =>
    if rate ≤ 0 then .error .rateNotPositive
    else .ok [(.frameInterval, .float (1000 / rate))]
  | _ => .error .rateNotReal

/-- The settings that options give. -/
def overlay (o : Options) : Except Config.Error Config.Overlay := do
  let given : Config.Overlay := [
    (.instructionsPerFrame, o.speed), (.scale, o.scale), (.soundOperand, o.soundOperand),
    (.keyWait, o.keyWait), (.seed, o.seed)]
  let given := given.filter fun (_, v) => match v with
    | .null => false
    | _ => true
  return given ++ (← rateOverlay o.fps)

/-- The configuration of a run: the file's, which must be right on its own, with the
options laid over it. -/
def config (host : Host) (o : Options) : Except Config.Error Config := do
  let base ← Config.load host o.config
  Config.ofOverlay host.stack (base.toOverlay ++ (← overlay o))

/-- How a run begins. -/
inductive Start
  /-- The command line stops it. -/
  | stopped (stop : Stop)
  /-- The configuration is refused in a way that is not reported. -/
  | badConfig (error : Config.Error)
  /-- The path of the program file is refused as such. -/
  | badPath (path : Text) (error : Files.Error)
  /-- There is no room for the picture of the window. -/
  | noRoom (error : Room.Error)
  /-- It is reported that the run cannot begin. -/
  | failed (threshold : Log.Level) (records : List Log.Record)
  /-- The window is open. -/
  | opened (window : Window) (calls : List Window.Call) (records : List Log.Record)

/-- The exit code of a command line that was not accepted. -/
def stopCode : Stop → Nat
  | .help => 0
  | .usage _ => 2

namespace Start

/-- The records that are written to the log. -/
def reported : Start → List Log.Record
  | failed threshold records => Log.atLeast threshold records
  | opened w _ records => Log.atLeast w.threshold records
  | _ => []

/-- The exit code of a run that is over before it has begun, if it ends in good order. -/
def code? : Start → Option Nat
  | stopped stop => some (stopCode stop)
  | failed .. => some 1
  | _ => none

end Start

/-- The threshold that options ask for. -/
def threshold (o : Options) : Log.Level := if o.debug then .debug else .info

/-- The source of a configuration's random bytes; without a seed, the one given. -/
def randomSource (c : Config) (unseeded : RandomSource) : RandomSource :=
  match c.seed with
  | none => unseeded
  | some seed => .seeded seed

/-- Reads the program, loads it and opens the window. -/
def openWindow (files : Files) (o : Options) (c : Config) (unseeded : RandomSource) :
    Start :=
  let loading : Log.Record := ⟨.info, "Loading ROM: " ++ o.rom⟩
  match files.read o.rom with
  | .error .zeroCharacter => .badPath o.rom .zeroCharacter
  | .error .noBytes => .badPath o.rom .noBytes
  | .error e =>
    .failed (threshold o) [loading, ⟨.error, .ofString ("Cannot read ROM: " ++ e.message o.rom)⟩]
  | .ok content =>
    let program := content.toList
    match (Machine.new c (randomSource c unseeded)).loadProgram program with
    | (_, .error e) => .failed (threshold o) [loading, ⟨.error, e.message⟩]
    | (m, .ok ()) =>
      match Window.openOn m (threshold o) with
      | .error e => .noRoom e
      | .ok (w, calls) => .opened w calls [loading, loadedRecord program]

/-- Begins a run. -/
def start (host : Host) (args : List Text) (unseeded : RandomSource) : Start :=
  match parse args with
  | .error stop => .stopped stop
  | .ok o =>
    match config host o with
    | .error e =>
      if e.isReported then .failed (threshold o) [⟨.error, e.message⟩] else .badConfig e
    | .ok c => openWindow host.files o c unseeded

/-- Plays events on a window, in order. -/
def play (w : Window) : List Window.Event → Window × List Window.Reaction
  | [] => (w, [])
  | e :: rest =>
    let (w, reaction) := w.handle e
    let (w, reactions) := play w rest
    (w, reaction :: reactions)

/-- The exit code of a run that opened a window. -/
def exitCode (w : Window) : Nat := if w.machine.halt.isSome then 1 else 0

end ChipEight.Session
