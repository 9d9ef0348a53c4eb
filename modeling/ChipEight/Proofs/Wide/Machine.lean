/-
# The machine over plain numbers

A `Wide` machine does what a `Machine` does, but its registers, its keys and its
pixels are lists of integers and its index and program counter are integers: there
are as many of them as there happen to be, and nothing is a byte, a bit or an
address, or stays one, unless an instruction cuts it down. What the types of a
`Machine` rule out can go wrong here and is a `Wide.Trap`.
-/

import ChipEight.Proofs.History
import ChipEight.Proofs.Wide.Keys
import ChipEight.Proofs.Wide.Pixels

namespace ChipEight

/-- A machine whose numbers are plain integers. -/
structure Wide where
  config : Config
  memory : Memory
  registers : List Int
  index : Int
  pc : Int
  stack : CallStack
  timers : Timers
  keys : List Int
  pixels : List (List Int)
  /-- The picture may differ from the one shown last. -/
  dirty : Bool
  wait : Wide.Wait
  fault : Option (Fault × Int)
  cycles : Nat
  random : RandomSource

namespace Wide

/-- What is left behind, and where to go on or why not. -/
abbrev Effect := Except Trap (Wide × Except Fault Int)

/-- All pixels dark. -/
def darkPixels : List (List Int) := .replicate 32 (.replicate 64 0)

/-- The number in a register. -/
def reg (w : Wide) (r : Nat) : Except Trap Int :=
  match w.registers[r]? with
  | some v => .ok v
  | none => .error .noRegister

/-- The machine with a number put into a register. -/
def setReg (w : Wide) (r : Nat) (v : Int) : Except Trap Wide :=
  if r < w.registers.length then .ok { w with registers := w.registers.set r v }
  else .error .noRegister

/-- The byte that a number is. -/
def byteOf (v : Int) : Except Trap UInt8 :=
  if 0 ≤ v ∧ v ≤ 255 then .ok (UInt8.ofInt v) else .error .notByte

/-- Goes on with the next word. -/
def advance (w : Wide) : Effect := .ok (w, .ok (w.pc + 2))

/-- Goes on with the next word, or with the one after it. -/
def skipIf (w : Wide) (c : Bool) : Effect := .ok (w, .ok (if c then w.pc + 4 else w.pc + 2))

/-- Goes on elsewhere. -/
def goTo (w : Wide) (target : Int) : Effect := .ok (w, .ok target)

/-- Stops with the machine as it is. -/
def fail (w : Wide) (fault : Fault) : Effect := .ok (w, .error fault)

/-- A truth value as a flag. -/
def flagOf (c : Bool) : Int := if c then 1 else 0

/-- Puts a flag into `VF` and then a result into its register. -/
def setFlagged (w : Wide) (flagged : Int) (r : Nat) (result : Int) : Except Trap Wide := do
  (← w.setReg 15 flagged).setReg r result

/-- Stores numbers from the index on, all of them bytes, and moves the index by
`distance`. -/
def storeAll (w : Wide) (values : List Int) (distance : Int) : Effect := do
  match w.memory.load w.index (← values.mapM byteOf) with
  | .error e => w.fail (.outOfBounds e)
  | .ok memory => advance { w with memory := memory, index := w.index + distance }

/-- Fetches the rows of a sprite that are on screen and draws them. -/
def drawSprite (w : Wide) (f : Fields) : Effect := do
  let w ← w.setReg 15 0
  let visible := min (f.n : Int) (32 - (← w.reg f.y) % 32)
  match w.memory.readBlock w.index visible with
  | .error e => w.fail (.outOfBounds e)
  | .ok rows =>
    let (pixels, hit) := stamp w.pixels ((← w.reg f.x) % 64).toNat ((← w.reg f.y) % 32).toNat
      (rows.map fun b => (b.toNat : Int))
    let w := { w with pixels := pixels, dirty := true }
    if hit then (← w.setReg 15 1).advance else w.advance

/-- Executes one instruction. -/
def execute (w : Wide) (op : Opcode) (f : Fields) : Effect := do
  match op with
  | .clear => advance { w with pixels := darkPixels, dirty := true }
  | .ret =>
    match w.stack.pop with
    | .error e => w.fail (.stack e)
    | .ok (address, stack) => goTo { w with stack := stack } (address + 2)
  | .jump => w.goTo f.nnn
  | .call =>
    match w.stack.push w.pc with
    | .error (.notAddress _) => throw .notSlot
    | .error e => w.fail (.stack e)
    | .ok stack => goTo { w with stack := stack } f.nnn
  | .skipEqByte => w.skipIf ((← w.reg f.x) == f.nn)
  | .skipNeByte => w.skipIf ((← w.reg f.x) != f.nn)
  | .skipEqReg => w.skipIf ((← w.reg f.x) == (← w.reg f.y))
  | .skipNeReg => w.skipIf ((← w.reg f.x) != (← w.reg f.y))
  | .loadByte => (← w.setReg f.x f.nn).advance
  | .addByte => (← w.setReg f.x (((← w.reg f.x) + f.nn) % 256)).advance
  | .copy => (← w.setReg f.x (← w.reg f.y)).advance
  | .or => (← w.setReg f.x (Int.lor (← w.reg f.x) (← w.reg f.y))).advance
  | .and => (← w.setReg f.x (Int.land (← w.reg f.x) (← w.reg f.y))).advance
  | .xor => (← w.setReg f.x (Int.xor (← w.reg f.x) (← w.reg f.y))).advance
  | .add =>
    let total := (← w.reg f.x) + (← w.reg f.y)
    (← w.setFlagged (flagOf (255 < total)) f.x (total % 256)).advance
  | .sub =>
    let vx ← w.reg f.x
    let vy ← w.reg f.y
    (← w.setFlagged (flagOf (vy < vx)) f.x ((vx - vy) % 256)).advance
  | .shiftRight =>
    let vx ← w.reg f.x
    (← w.setFlagged (vx % 2) f.x (vx / 2)).advance
  | .subFrom =>
    let vx ← w.reg f.x
    let vy ← w.reg f.y
    (← w.setFlagged (flagOf (vx < vy)) f.x ((vy - vx) % 256)).advance
  | .shiftLeft =>
    let vx ← w.reg f.x
    (← w.setFlagged (vx / 128 % 2) f.x (2 * vx % 256)).advance
  | .loadIndex => advance { w with index := f.nnn }
  | .jumpOffset => w.goTo ((← w.reg 0) + f.nnn)
  | .random =>
    let (value, random) := w.random.draw
    (← setReg { w with random := random } f.x (Int.land value f.nn)).advance
  | .draw => w.drawSprite f
  | .skipPressed => w.skipIf (← isPressed w.keys (← w.reg f.x))
  | .skipReleased => w.skipIf (!(← isPressed w.keys (← w.reg f.x)))
  | .readDelay => (← w.setReg f.x w.timers.delay).advance
  | .waitKey =>
    let (wait, key?) ← w.wait.poll w.keys
    let w := { w with wait := wait }
    match key? with
    | none => w.goTo w.pc
    | some key => (← w.setReg f.x key).advance
  | .setDelay => advance { w with timers := { w.timers with delay := ← w.reg f.x } }
  | .setSound =>
    let source := match w.config.soundOperand with
      | .named => f.x
      | .lowNibble => f.n
    advance { w with timers := { w.timers with sound := ← w.reg source } }
  | .addIndex =>
    let total := w.index + (← w.reg f.x)
    advance { ← w.setReg 15 (flagOf (0xFFF < total)) with index := total % 65536 }
  | .glyph => advance { w with index := Font.address + (← w.reg f.x) * Font.glyphSize }
  | .decimal =>
    let vx ← w.reg f.x
    w.storeAll [vx / 100, vx / 10 % 10, vx % 10] 0
  | .store => w.storeAll (w.registers.take (f.x + 1)) (f.x + 1)
  | .load =>
    match w.memory.readBlock w.index (f.x + 1 : Nat) with
    | .error e => w.fail (.outOfBounds e)
    | .ok bytes =>
      let loaded := bytes.map fun b => (b.toNat : Int)
      advance { w with
        registers := loaded ++ w.registers.drop (f.x + 1)
        index := w.index + (f.x + 1) }

/-- What a step gives back. -/
structure Result where
  pc : Int
  word? : Option Nat
  fault? : Option (Fault × Int)

/-- Stops the machine at its program counter. -/
def stop (w : Wide) (word? : Option Nat) (fault : Fault) : Wide × Result :=
  ({ w with fault := some (fault, w.pc) }, ⟨w.pc, word?, some (fault, w.pc)⟩)

/-- Fetches, decodes and executes one instruction. -/
def step (w : Wide) : Except Trap (Wide × Result) :=
  match w.fault with
  | some fault => .ok (w, ⟨fault.2, none, some fault⟩)
  | none =>
    match w.memory.readWord w.pc with
    | .error e => .ok (w.stop none (.outOfBounds e))
    | .ok word =>
      match Opcode.ofWord? word with
      | none => .ok (w.stop (some word) (.invalidInstruction word))
      | some op => do
        match ← w.execute op (Fields.ofWord word) with
        | (w, .error fault) => return w.stop (some word) fault
        | (w', .ok next) =>
          return ({ w' with pc := next, cycles := w'.cycles + 1 }, ⟨w.pc, some word, none⟩)

/-- Up to `n` steps, none after one that executes nothing; the flag says that all
of them executed something. -/
def burst (w : Wide) : Nat → Except Trap (Wide × Bool)
  | 0 => .ok (w, true)
  | n + 1 => do
    let (w, result) ← w.step
    if result.fault?.isNone then w.burst n else return (w, false)

/-- One tick of both timers. -/
def tick (w : Wide) : Wide := { w with timers := w.timers.tick }

/-- The burst and the tick of a frame. -/
def runLatched (w : Wide) : Except Trap Wide := do
  let (w, ran) ← w.burst w.config.instructionsPerFrame
  return if ran then w.tick else w

/-- A machine without a program, its memory all zero. -/
def new (config : Config) (random : RandomSource) : Wide where
  config := config
  memory := .blank config.memorySize
  registers := .replicate 16 0
  index := 0
  pc := Machine.programStart
  stack := .empty Machine.stackDepth
  timers := {}
  keys := .replicate 16 0
  pixels := darkPixels
  dirty := true
  wait := { mode := config.keyWait }
  fault := none
  cycles := 0
  random := random

/-- Everything as in a new machine, but the program counter and the random bytes
go on from where they are. -/
def reset (w : Wide) : Wide :=
  { w with
    memory := w.memory.clear
    registers := .replicate 16 0
    index := 0
    stack := w.stack.clear
    timers := w.timers.clear
    keys := .replicate 16 0
    pixels := darkPixels
    dirty := true
    wait := w.wait.reset
    fault := none
    cycles := 0 }

/-- Resets the machine, puts the glyphs in and then the program, if it fits. -/
def loadProgram (w : Wide) (program : List UInt8) : Wide :=
  let w := w.reset
  match w.memory.load Font.address Font.glyphs with
  | .error _ => w
  | .ok memory =>
    match memory.load Machine.programStart program with
    | .error _ => { w with memory := memory }
    | .ok memory => { w with memory := memory, pc := Machine.programStart }

/-- The numbers of the keys in a snapshot, if it has sixteen entries. -/
def latched? (snapshot : Value) : Option (List Int) :=
  match snapshot.truths? with
  | none => none
  | some entries =>
    if entries.length = 16 then some (entries.map fun pressed => if pressed then 1 else 0) else none

/-- The machine after an action, if nothing goes wrong. -/
def act (w : Wide) : Machine.Action → Except Trap Wide
  | .load program =>
    match program.toBytes w.memory.tooMany with
    | .error _ => .ok w
    | .ok bytes => .ok (w.loadProgram bytes)
  | .step => return (← w.step).1
  | .frame .null => w.runLatched
  | .frame snapshot =>
    match latched? snapshot with
    | none => .ok w
    | some keys => runLatched { w with keys := keys }
  | .tick => .ok w.tick

/-- The machines that a host can bring about. -/
inductive Reachable (c : Config) (random : RandomSource) : Wide → Prop
  | new : Reachable c random (new c random)
  | act {w w' : Wide} (a : Machine.Action) (h : Reachable c random w)
      (ha : w.act a = .ok w') : Reachable c random w'

end Wide
end ChipEight
