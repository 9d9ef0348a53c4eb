/-
# The command line

One program file and options, in any order. An option may be cut short as long as
it stays the only one of its beginning, its value may follow as the next word or
after an equals sign, and the last of several counts. A word is an option if it
starts with a dash, but not if it is a dash alone, looks like a negative number or
holds a space; after `--` no word is.

What every word is settled first (`Word.ofArgs`); then the words are worked off from
left to right (`Parse.run`). Words are texts, for a host can hand over any code point.
-/

import ChipEight.Numeral.Plain
import ChipEight.Text.Quoted
import ChipEight.Value

namespace ChipEight.CommandLine

/-- The options. -/
inductive Flag
  | help | config | speed | fps | scale | soundOperand | keyWait | seed | debug
  deriving DecidableEq, Repr

/-- What an option takes. -/
inductive Kind
  | nothing | text | integer | real
  | choice (names : List String)

namespace Flag

/-- The spellings of an option. -/
def names : Flag → List String
  | help => ["-h", "--help"]
  | config => ["--config"]
  | speed => ["--speed"]
  | fps => ["--fps"]
  | scale => ["--scale"]
  | soundOperand => ["--sound-operand"]
  | keyWait => ["--key-wait"]
  | seed => ["--seed"]
  | debug => ["--debug"]

/-- What an option takes. -/
def kind : Flag → Kind
  | help | debug => .nothing
  | config => .text
  | speed | scale | seed => .integer
  | fps => .real
  | soundOperand => .choice ["x", "n"]
  | keyWait => .choice ["release", "press"]

/-- Every option, in the order in which they are listed. -/
def all : List Flag := [help, config, speed, fps, scale, soundOperand, keyWait, seed, debug]

/-- Every spelling with its option. -/
def spellings : List (String × Flag) := all.flatMap fun f => f.names.map fun name => (name, f)

/-- The option of a full spelling. -/
def ofName? (name : Text) : Option Flag :=
  (spellings.find? fun (spelled, _) => Text.ofString spelled = name).map Prod.snd

/-- What an option is for. -/
def purpose : Flag → String
  | help => "show this help message and exit"
  | config => "YAML config file"
  | speed => "instructions executed per frame"
  | fps => "frames (timer ticks) per second"
  | scale => "window pixels per CHIP-8 pixel"
  | soundOperand => "register Fx18 reads: Vx, or the low nibble register"
  | keyWait => "Fx0A resumes on key release or on key press"
  | seed => "seed for RND"
  | debug => "trace every instruction"

/-- What messages call an option. -/
def title (f : Flag) : String := String.intercalate "/" f.names

end Flag

/-- Why a command line gives no options. -/
inductive Stop
  /-- The usage was asked for. -/
  | help
  /-- It is wrong, in these words. -/
  | usage (message : Text)
  deriving DecidableEq, Repr

/-- What a word is. -/
inductive Word
  /-- A value, or the program file. -/
  | value (t : Text)
  /-- The first `--`. -/
  | separator
  /-- An option that is not known. -/
  | unknown (t : Text)
  /-- An option as it was spelled, with what follows its equals sign. -/
  | option (flag : Flag) (spelled : Text) (attached? : Option Text)

namespace Word

/-- The text before and after the first equals sign. -/
def cutAtEquals (t : Text) : Option (Text × Text) :=
  match t.points.dropWhile (· ≠ .char '=') with
  | [] => none
  | _ :: rest => some (⟨t.points.takeWhile (· ≠ .char '=')⟩, ⟨rest⟩)

/-- Looks like a negative number: a dash, and digits with at most one point, not at
their end. -/
def isNegativeNumber (s : String) : Bool :=
  let cs := s.toList
  let cs := if cs.getLast? = some '\n' then cs.dropLast else cs
  match cs with
  | '-' :: cs =>
    let rest := cs.dropWhile Text.isDigit
    match rest with
    | [] => !cs.isEmpty
    | '.' :: fraction => !fraction.isEmpty && fraction.all Text.isDigit
    | _ => false
  | _ => false

/-- A text that starts with a dash but stands for a value. -/
def isValue (t : Text) : Bool :=
  t.toString?.any isNegativeNumber || t.points.contains (.char ' ')

/-- The spellings that a beginning can stand for, each with its value. -/
def candidates (t : Text) : List (Flag × Text × Option Text) :=
  let spellings := Flag.spellings.map fun (name, f) => (Text.ofString name, f)
  match t.points with
  | .char '-' :: .char '-' :: _ =>
    let (start, attached?) := match cutAtEquals t with
      | some (start, attached) => (start, some attached)
      | none => (t, none)
    (spellings.filter fun (name, _) => start.points.isPrefixOf name.points).map
      fun (name, f) => (f, name, attached?)
  | .char '-' :: letter :: rest =>
    (spellings.filter fun (name, _) => name.points = [.char '-', letter]).map
      fun (name, f) => (f, name, some ⟨rest⟩)
  | _ => []

/-- What one word is. -/
def ofArg (t : Text) : Except Stop Word :=
  if t.points.head? ≠ some (.char '-') then .ok (.value t)
  else
    match Flag.ofName? t with
    | some f => .ok (.option f t none)
    | none =>
      if t.points.length = 1 then .ok (.value t)
      else
        let spelled? := (cutAtEquals t).bind fun (name, attached) =>
          (Flag.ofName? name).map fun f => Word.option f name (some attached)
        match spelled? with
        | some w => .ok w
        | none =>
          match candidates t with
          | [(f, name, attached?)] => .ok (.option f name attached?)
          | [] => .ok (if isValue t then .value t else .unknown t)
          | several =>
            .error (.usage ("ambiguous option: " ++ t ++ " could match "
              ++ Text.intercalate ", " (several.map fun (_, name, _) => name)))

/-- What separates options from what can be none. -/
def separatorText : Text := "--"

/-- What every word is. -/
def ofArgs : List Text → Except Stop (List Word)
  | [] => .ok []
  | t :: rest =>
    if t = separatorText then .ok (.separator :: rest.map .value)
    else do
      let w ← ofArg t
      return w :: (← ofArgs rest)

end Word

/-- The options given. A value is null if it was not given; `--option=--` leaves an
empty list. -/
structure Options where
  rom : Text := ""
  config : Value := .null
  speed : Value := .null
  fps : Value := .null
  scale : Value := .null
  soundOperand : Value := .null
  keyWait : Value := .null
  seed : Value := .null
  debug : Bool := false

/-- A command line half worked off. -/
structure Parse where
  options : Options := {}
  rom? : Option Text := none
  /-- Words that nothing is known about, in order. -/
  extras : List Text := []

namespace Parse

/-- An option is used wrongly. -/
def wrong {α : Type} (f : Flag) (message : String) : Except Stop α :=
  .error (.usage ("argument " ++ f.title ++ ": " ++ message : String))

/-- A value of an option, converted. -/
def convert (f : Flag) (t : Text) : Except Stop Value :=
  match f.kind with
  | .nothing | .text => .ok (.text t)
  | .integer =>
    match Numeral.readInt t.shown with
    | .ok n => .ok (.int n)
    | .error _ => wrong f ("invalid int value: " ++ Text.quoted t)
  | .real =>
    match Numeral.readReal t.shown with
    | some x => .ok (.float x)
    | none => wrong f ("invalid float value: " ++ Text.quoted t)
  | .choice names =>
    if t.toString?.any names.contains then .ok (.text t)
    else wrong f ("invalid choice: " ++ Text.quoted t ++ " (choose from "
      ++ String.intercalate ", " (names.map fun (name : String) => Text.quoted name) ++ ")")

/-- Puts a value in its place. -/
def setOption (o : Options) (f : Flag) (v : Value) : Options :=
  match f with
  | .config => { o with config := v }
  | .speed => { o with speed := v }
  | .fps => { o with fps := v }
  | .scale => { o with scale := v }
  | .soundOperand => { o with soundOperand := v }
  | .keyWait => { o with keyWait := v }
  | .seed => { o with seed := v }
  | .debug => { o with debug := true }
  | .help => o

/-- The parse with an option given. -/
def give (p : Parse) (f : Flag) (t : Text) : Except Stop Parse := do
  return { p with options := setOption p.options f (← convert f t) }

/-- The parse with a value that stood after an equals sign. -/
def giveAttached (p : Parse) (f : Flag) (t : Text) : Except Stop Parse :=
  if t = Word.separatorText then .ok { p with options := setOption p.options f (.list []) }
  else p.give f t

/-- What stands directly at a short option: more short options, or a mistake. -/
def cluster (f : Flag) : List Text.Point → Stop
  | [] => .help
  | letter :: rest =>
    match Flag.ofName? ⟨[.char '-', letter]⟩ with
    | some f => cluster f rest
    | none =>
      .usage ("argument " ++ f.title ++ ": ignored explicit argument "
        ++ Text.quoted ⟨letter :: rest⟩ : String)

/-- An option without a value. -/
def giveBare (p : Parse) (f : Flag) (spelled : Text) (attached? : Option Text) :
    Except Stop Parse :=
  match attached? with
  | some t =>
    if spelled.points[1]? ≠ some (.char '-') && !t.isEmpty then .error (cluster f t.points)
    else wrong f ("ignored explicit argument " ++ Text.quoted t)
  | none =>
    match f with
    | .help => .error .help
    | f => .ok { p with options := setOption p.options f .null }

/-- Takes a word that is no option: the program file, if there is none yet. -/
def takeValue (p : Parse) (t : Text) : Parse :=
  match p.rom? with
  | none => { p with rom? := some t }
  | some _ => { p with extras := p.extras ++ [t] }

/-- Works the words off. A separator belongs to the program file next to it. -/
def run (p : Parse) : List Word → Except Stop Parse
  | [] => .ok p
  | .unknown t :: rest => run { p with extras := p.extras ++ [t] } rest
  | .value t :: .separator :: rest =>
    if p.rom?.isNone then run (p.takeValue t) rest
    else run ((p.takeValue t).takeValue Word.separatorText) rest
  | .value t :: rest => run (p.takeValue t) rest
  | .separator :: .value t :: rest =>
    if p.rom?.isNone then run (p.takeValue t) rest
    else run { p with extras := p.extras ++ [Word.separatorText, t] } rest
  | .separator :: rest => run { p with extras := p.extras ++ [Word.separatorText] } rest
  | .option f spelled attached? :: rest =>
    match f.kind, attached? with
    | .nothing, _ => do run (← p.giveBare f spelled attached?) rest
    | _, some t => do run (← p.giveAttached f t) rest
    | _, none =>
      match rest with
      | .value t :: rest => do run (← p.give f t) rest
      | _ => wrong f "expected one argument"
termination_by ws => ws.length

/-- The options, if the program file is there and nothing is left over. -/
def finish (p : Parse) : Except Stop Options :=
  match p.rom? with
  | none => .error (.usage "the following arguments are required: rom")
  | some rom =>
    if p.extras.isEmpty then .ok { p.options with rom }
    else .error (.usage ("unrecognized arguments: " ++ Text.intercalate " " p.extras))

end Parse

/-- What the program is called. -/
def programName : String := "chip8"

/-- The line that reports a wrong command line. -/
def usageLine (message : Text) : Text := programName ++ ": error: " ++ message

/-- What to write for the value of an option. -/
def Kind.placeholder : Kind → String
  | .nothing => ""
  | .text => " TEXT"
  | .integer => " INTEGER"
  | .real => " NUMBER"
  | .choice names => " " ++ String.intercalate "|" names

/-- The lines that explain the command line. -/
def helpLines : List String :=
  ["usage: " ++ programName ++ " [options] rom", "", "CHIP-8 interpreter", "",
    "  rom: ROM file, loaded unmodified at 0x200"]
    ++ Flag.all.map fun f =>
      "  " ++ String.intercalate ", " f.names ++ f.kind.placeholder ++ ": " ++ f.purpose

/-- Reads a command line. -/
def parse (args : List Text) : Except Stop Options := do
  (← Parse.run {} (← Word.ofArgs args)).finish

end ChipEight.CommandLine
