/-
# Loading a configuration

A configuration is laid over the defaults in steps, each of which can refuse it:

1. the source is a mapping, the fields of a configuration, or a file that holds a mapping;
2. every key is the name of a setting (`Overlay.ofEntries`);
3. every value converts to the type of its setting (`Draft.ofOverlay`);
4. every setting is in range (`Draft.check`).

Most refusals are reported as configuration errors. Some are not
(`Config.Error.isReported`): a number out of range of its conversion, a value too deep to
be written or copied, a memory size too long to be written, a key that is no text, a path
at which a host cannot say whether there is anything, a file that is not UTF-8, and one that
a loader stumbles over.
-/

import ChipEight.Config
import ChipEight.Config.Conversion

namespace ChipEight.Config

/-- The settings. -/
inductive Field
  | instructionsPerFrame | frameInterval | memorySize | soundOperand | keyWait | scale | seed
  deriving DecidableEq, Repr

namespace Field

/-- The key of a setting. -/
def key : Field → String
  | instructionsPerFrame => "instructions_per_frame"
  | frameInterval => "frame_interval_ms"
  | memorySize => "memory_size"
  | soundOperand => "sound_timer_operand"
  | keyWait => "key_wait_mode"
  | scale => "scale"
  | seed => "seed"

/-- Every setting, in the order they are converted. -/
def all : List Field :=
  [instructionsPerFrame, frameInterval, memorySize, soundOperand, keyWait, scale, seed]

/-- The setting of a key. -/
def ofKey? (key : String) : Option Field := all.find? fun f => f.key = key

/-- The setting of a key that may be anything. -/
def ofValue? : Value → Option Field
  | .text t => t.toString?.bind ofKey?
  | _ => none

theorem mem_all (f : Field) : f ∈ all := by cases f <;> decide

@[simp] theorem ofKey?_key (f : Field) : ofKey? f.key = some f := by cases f <;> decide

/-- What a setting is when nothing is said about it. -/
def default : Field → Value
  | instructionsPerFrame => .int 10
  | frameInterval => .float (1000 / 60)
  | memorySize => .int 4096
  | soundOperand => .text "x"
  | keyWait => .text "release"
  | scale => .int 10
  | seed => .null

end Field

/-- Why a configuration is refused. -/
inductive Error
  /-- The source is neither a mapping nor a path. -/
  | unsupported
  | notFound (path : Text)
  | unreadable (path : Text) (reason : String)
  | notMapping (path : Text)
  | unknownKeys (keys : List Text)
  | badType (error : ConversionError)
  | tooFewInstructions
  | intervalNotPositive
  | memoryOutOfRange (size : Int)
  | badSoundOperand
  | badKeyWait
  | scaleTooSmall
  /-- A frame rate that is zero or less. -/
  | rateNotPositive
  /-- A key that is no setting is not even a text. -/
  | keyNotText
  /-- The file is not UTF-8. -/
  | notUtf8 (path : Text)
  /-- A scalar of the file is refused by its own tag. -/
  | badScalar (path : Text) (error : Yaml.ScalarError)
  /-- The collections of the file are nested too deeply. -/
  | tooDeep (path : Text)
  /-- The path itself is refused, or what is at it. -/
  | badPath (path : Text) (error : Files.Error)
  /-- A frame rate that is no number at all. -/
  | rateNotReal
  /-- The fields of a configuration are nested too deeply to be copied. -/
  | fieldsTooDeep
  deriving DecidableEq, Repr

namespace Error

/-- The refusal is reported as a configuration error; else it ends the program. -/
def isReported : Error → Bool
  | keyNotText | notUtf8 _ | badScalar _ _ | tooDeep _ | badPath _ _ | rateNotReal
  | fieldsTooDeep => false
  | badType error => error.isReported
  | memoryOutOfRange size => Numeral.isWritable size
  | _ => true

/-- Names in parentheses. -/
def choices (names : List String) : String :=
  "(" ++ String.intercalate ", " (names.map fun (name : String) => Text.quoted name) ++ ")"

/-- Wording of a refusal. -/
def message : Error → Text
  | unsupported => "Unsupported config input"
  | notFound path => "Config file not found: " ++ path
  | unreadable path reason => "Failed to load config file " ++ path ++ ": " ++ Text.ofString reason
  | notMapping path => "Config file " ++ path ++ " does not contain a mapping"
  | unknownKeys keys => "Unknown config keys: " ++ Text.intercalate ", " keys
  | badType error => "Bad types in config: " ++ error.message
  | tooFewInstructions => "instructions_per_frame must be at least 1"
  | intervalNotPositive => "frame_interval_ms must be positive"
  | memoryOutOfRange size =>
    "memory_size (" ++ toString size ++ ") out of range (" ++ toString minMemory ++ ".."
      ++ toString maxMemory ++ ")"
  | badSoundOperand =>
    "sound_timer_operand must be one of "
      ++ choices [SoundOperand.named.name, SoundOperand.lowNibble.name]
  | badKeyWait =>
    "key_wait_mode must be one of "
      ++ choices [KeyWait.Mode.onRelease.name, KeyWait.Mode.onPress.name]
  | scaleTooSmall => "scale must be at least 1"
  | rateNotPositive => "fps must be positive"
  | keyNotText => "a configuration key is not a text"
  | notUtf8 path => "Config file " ++ path ++ " is not UTF-8"
  | badScalar path error => "Config file " ++ path ++ ": " ++ Text.ofString error.message
  | tooDeep path => "Config file " ++ path ++ " is nested too deeply"
  | badPath path error => error.message path
  | rateNotReal => "fps is not a number"
  | fieldsTooDeep => "the fields of a configuration are nested too deeply"

end Error

/-- Settings given, a later one over an earlier one of the same field. -/
abbrev Overlay := List (Field × Value)

namespace Overlay

/-- The setting of a field: the last one given, else the default. -/
def get (o : Overlay) (f : Field) : Value := (o.reverse.lookup f).getD f.default

/-- The text of a key that is one. -/
def textKey? : Value → Option Text
  | .text t => some t
  | _ => none

/-- The settings of a mapping, if every key is one. -/
def ofEntries (entries : List (Value × Value)) : Except Error Overlay :=
  let unknown := (entries.map Prod.fst).filter fun key => (Field.ofValue? key).isNone
  if unknown.isEmpty then
    .ok (entries.filterMap fun (key, value) => (Field.ofValue? key).map fun f => (f, value))
  else
    match unknown.mapM textKey? with
    | none => .error .keyNotText
    | some keys => .error (.unknownKeys (keys.eraseDups.mergeSort Text.precedes))

end Overlay

/-- Settings of the right types, not yet checked. -/
structure Draft where
  instructionsPerFrame : Int
  frameInterval : Float
  memorySize : Int
  soundOperand : String
  keyWait : String
  scale : Int
  seed : Option Int

namespace Draft

/-- A seed may be absent. -/
def seedOf : Value → Except ConversionError (Option Int)
  | .null => .ok none
  | v => v.toInt.map some

/-- Converts every setting, in order. -/
def ofOverlay (stack : Stack) (o : Overlay) : Except ConversionError Draft := do
  let instructionsPerFrame ← (o.get .instructionsPerFrame).toInt
  let frameInterval ← (o.get .frameInterval).toReal
  let memorySize ← (o.get .memorySize).toInt
  let soundOperand ← (o.get .soundOperand).toName stack
  let keyWait ← (o.get .keyWait).toName stack
  let scale ← (o.get .scale).toInt
  let seed ← seedOf (o.get .seed)
  return { instructionsPerFrame, frameInterval, memorySize, soundOperand, keyWait, scale, seed }

/-- The choice of a name. -/
def soundOperand? (name : String) : Option SoundOperand :=
  [SoundOperand.named, .lowNibble].find? fun choice => choice.name = name

/-- The choice of a name. -/
def keyWait? (name : String) : Option KeyWait.Mode :=
  [KeyWait.Mode.onRelease, .onPress].find? fun choice => choice.name = name

/-- Checks every setting, in order. An interval that is no number passes, for it
is not below or equal to zero. -/
def check (d : Draft) : Except Error Config := do
  if d.instructionsPerFrame < 1 then throw .tooFewInstructions
  if d.frameInterval ≤ 0 then throw .intervalNotPositive
  if d.memorySize < minMemory ∨ maxMemory < d.memorySize then
    throw (.memoryOutOfRange d.memorySize)
  let some soundOperand := soundOperand? d.soundOperand | throw .badSoundOperand
  let some keyWait := keyWait? d.keyWait | throw .badKeyWait
  if d.scale < 1 then throw .scaleTooSmall
  return {
    instructionsPerFrame := d.instructionsPerFrame.toNat
    frameInterval := d.frameInterval
    memorySize := d.memorySize.toNat
    soundOperand, keyWait
    scale := d.scale.toNat
    seed := d.seed }

end Draft

/-- The configuration that settings make over the defaults. -/
def ofOverlay (stack : Stack) (o : Overlay) : Except Error Config :=
  match Draft.ofOverlay stack o with
  | .error e => .error (.badType e)
  | .ok draft => draft.check

/-- The configuration that a mapping makes over the defaults. -/
def ofEntries (stack : Stack) (entries : List (Value × Value)) : Except Error Config := do
  ofOverlay stack (← Overlay.ofEntries entries)

/-- The settings of a configuration, each as a value. -/
def toOverlay (c : Config) : Overlay := [
  (.instructionsPerFrame, .int c.instructionsPerFrame),
  (.frameInterval, .float c.frameInterval),
  (.memorySize, .int c.memorySize),
  (.soundOperand, .text c.soundOperand.name),
  (.keyWait, .text c.keyWait.name),
  (.scale, .int c.scale),
  (.seed, match c.seed with | none => .null | some n => .int n)]

/-- What a loader says of a file, as a refusal. -/
def Error.ofLoader (path : Text) : Yaml.Loader.Error → Error
  | .refused (.malformed how) => unreadable path how
  | .refused (.scalar error) => badScalar path error
  | .refused .tooDeep => tooDeep path
  | .notUtf8 => notUtf8 path

/-- The content of a file. A path at which there may be something is opened, and then what
a system says is reported. -/
def readContent (files : Files) (path : Text) : Except Error ByteArray :=
  let tidied := Files.tidy path
  match files.look tidied with
  | .error e => .error (if e.meansNothing then .notFound path else .badPath path e)
  | .ok () =>
    match files.read tidied with
    | .error e =>
      .error (if e.isOfPath then .badPath path e else .unreadable path (e.message tidied))
    | .ok content => .ok content

/-- The mapping in a document. One that is empty or false is an empty mapping. -/
def entriesOf (path : Text) (v : Value) : Except Error (List (Value × Value)) :=
  if !v.isTrue then .ok []
  else match v with
    | .map entries => .ok entries
    | _ => .error (.notMapping path)

/-- The mapping in a file. -/
def readFile (host : Host) (path : Text) : Except Error (List (Value × Value)) := do
  let content ← readContent host.files path
  let v ← (host.loader.load content).mapError (.ofLoader path)
  entriesOf path v

/-- Loads a configuration: a mapping, a file by its path, or nothing. -/
def load (host : Host) : Value → Except Error Config
  | .null => ofOverlay host.stack []
  | .map entries => ofEntries host.stack entries
  | .text path => do ofEntries host.stack (← readFile host path)
  | _ => .error .unsupported

/-- The mapping of the fields of a configuration, which may hold any values. -/
def toEntries (fields : Field → Value) : List (Value × Value) :=
  Field.all.map fun f => (.text f.key, fields f)

/-- Loads a configuration from another one, in whose fields any values may stand. They are
copied first, collections and all. -/
def loadFields (host : Host) (fields : Field → Value) : Except Error Config :=
  if Field.all.all fun f => host.stack.canCopy (fields f) then
    ofEntries host.stack (toEntries fields)
  else .error .fieldsTooDeep

end ChipEight.Config
