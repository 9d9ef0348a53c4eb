/-
# The program

Reads the files that the command line names, begins a run and plays the lines of
standard input on its window (`ChipEight.Window.Script`). What a run does is settled
in `ChipEight.Session`; here it is only carried out. Records go to the error
output, calls on the display to the standard output.
-/

import ChipEight.Session
import ChipEight.Window.Script

namespace ChipEight.Program

/-- The number of an error. Those of opening a file come as their negatives. -/
def errno (code : UInt32) : UInt32 := if code < 0x80000000 then code else 0 - code

/-- Why the system gave no answer. -/
def fileError : IO.Error → Files.Error
  | .noFileOrDirectory .. => .notFound
  | .inappropriateType _ code _ => if errno code = 21 then .isDirectory else .notDirectory
  | .invalidArgument _ code reason =>
    if errno code = 36 then .nameTooLong
    else if errno code = 40 then .endless
    else .refused ("[Errno " ++ toString (errno code) ++ "] " ++ reason)
  | .permissionDenied .. => .refused "[Errno 13] Permission denied"
  | e => .refused (toString e)

/-- What the system answers to a question about a path. -/
def ask {α : Type} (path : Text) (question : String → IO α) : IO (Except Files.Error α) :=
  match Files.stringOf path with
  | .error e => return .error e
  | .ok path => do
    match ← (question path).toBaseIO with
    | .ok answer => return .ok answer
    | .error e => return .error (fileError e)

/-- Looks at a path of the system and reads the file there. Where the path leads nowhere,
opening it says why. -/
def answer (path : Text) : IO Files.Answer := do
  let there ← ask path fun path => IO.FS.realPath path
  let read ← ask path fun path => IO.FS.readBinFile path
  let look := match there, read with
    | .error _, .error e => .error e
    | _, _ => .ok ()
  return { path, look, read }

/-- The files that options name. -/
def filesOf (o : CommandLine.Options) : IO Files := do
  let paths := match o.config with
    | .text path => [Files.tidy path, o.rom]
    | _ => [o.rom]
  return .ofList (← paths.mapM answer)

/-- The files that a command line names. -/
def filesOfArgs (args : List Text) : IO Files :=
  match CommandLine.parse args with
  | .ok o => filesOf o
  | .error _ => return .none

/-- A source that no one has chosen. -/
def unseeded : IO RandomSource := do
  let bytes ← IO.getRandomBytes 32
  return .seeded (bytes.toList.foldl (fun n b => 256 * n + b.toNat) 0)

/-- Writes records to the error output. -/
def report (records : List Log.Record) : IO Unit :=
  records.forM fun r => IO.eprintln (r.level.name ++ " " ++ r.text.shown)

/-- Carries out calls on the display. -/
def display (w : Window) (calls : List Window.Call) : IO Unit :=
  (calls.flatMap (Window.Call.lines w)).forM IO.println

/-- Plays lines on a window until it is closed or they end. -/
partial def play (input : IO.FS.Stream) (w : Window) : IO Window := do
  let line ← input.getLine
  if line.isEmpty then return w
  match Window.Event.ofLine? line with
  | none =>
    IO.eprintln "this is no event"
    play input w
  | some event =>
    let (w, reaction) := w.handle event
    report reaction.records
    display w reaction.calls
    if let some problem := reaction.problem? then IO.eprintln problem.message
    if w.closed then return w else play input w

/-- Carries out a run from its beginning. -/
def run (s : Session.Start) : IO UInt32 := do
  report s.reported
  match s with
  | .opened w calls _ =>
    display w calls
    let w ← play (← IO.getStdin) w
    return UInt32.ofNat (Session.exitCode w)
  | .stopped .help => CommandLine.helpLines.forM IO.println
  | .stopped (.usage message) => IO.eprintln (CommandLine.usageLine message).shown
  | .badConfig e => IO.eprintln e.message.shown
  | .badPath path e => IO.eprintln (e.message path)
  | .noRoom e => IO.eprintln e.message
  | .failed .. => pure ()
  return UInt32.ofNat (s.code?.getD 1)

end ChipEight.Program

/-- Runs a CHIP-8 program. -/
def main (args : List String) : IO UInt32 := do
  let args := args.map ChipEight.Text.ofString
  ChipEight.Program.run
    (ChipEight.Session.start (← ChipEight.Program.filesOfArgs args) args
      (← ChipEight.Program.unseeded))
