/-
# What each instruction does

`Machine.execute` gives the machine an instruction leaves behind and the address
of the next instruction, or the fault that stopped it. Arithmetic writes the flag
before the result, so with `VF` as destination the result stays
(`Machine.setFlagged`). A draw clears the flag before it reads its operands.
-/

import ChipEight.Instruction.Opcode
import ChipEight.Machine.Basic

namespace ChipEight.Machine

/-- What is left behind, and where to go on or why not. -/
abbrev Effect := Machine × Except Fault Nat

/-- Goes on with the next word. -/
def advance (m : Machine) : Effect := (m, .ok (m.pc + 2))

/-- Goes on with the next word, or with the one after it. -/
def skipIf (m : Machine) (c : Bool) : Effect := (m, .ok (if c then m.pc + 4 else m.pc + 2))

/-- Goes on elsewhere. -/
def goTo (m : Machine) (target : Nat) : Effect := (m, .ok target)

/-- Stops with the machine as it is. -/
def fail (m : Machine) (fault : Fault) : Effect := (m, .error fault)

/-- A truth value as a flag. -/
def flagOf (c : Bool) : UInt8 := if c then 1 else 0

/-- Puts a flag into `VF` and then a result into its register. -/
def setFlagged (m : Machine) (flagged : UInt8) (r : Fin 16) (result : UInt8) : Machine :=
  (m.setReg flag flagged).setReg r result

/-- Fetches the rows of a sprite that are on screen and draws them. -/
def drawSprite (m : Machine) (f : Fields) : Effect :=
  let m := m.setReg flag 0
  let x : Int := (m.reg f.x).toNat
  let y : Nat := (m.reg f.y).toNat
  let visible := min (f.n : Nat) (32 - y % 32)
  match m.memory.readBlock m.index visible with
  | .error e => m.fail (.outOfBounds e)
  | .ok rows =>
    let (screen, hit) := m.screen.draw x y (rows.map fun b => (b.toNat : Int))
    let m := { m with screen := screen }
    (if hit then m.setReg flag 1 else m).advance

/-- The first registers, up to and with `last`. -/
def firstRegs (m : Machine) (last : Fin 16) : List UInt8 := m.registers.toList.take (last + 1)

@[simp] theorem length_firstRegs (m : Machine) (last : Fin 16) :
    (m.firstRegs last).length = last + 1 := by
  simp only [firstRegs, List.length_take, Vector.length_toList]
  omega

theorem getD_firstRegs (m : Machine) {r last : Fin 16} (h : r ≤ last) :
    (m.firstRegs last).getD r 0 = m.reg r := by
  have hr : (r : Nat) < last + 1 := Nat.lt_succ_of_le h
  rw [firstRegs, List.getD_eq_getElem?_getD, List.getElem?_take_of_lt hr, reg_eq_getElem,
    Vector.getElem?_toList, Vector.getElem?_eq_getElem r.isLt, Option.getD_some]

/-- The machine with bytes put into the registers from `V0` on. -/
def setFirstRegs (m : Machine) (bytes : List UInt8) : Machine :=
  { m with registers := .ofFn fun r => bytes[r.val]?.getD (m.reg r) }

@[simp] theorem pc_setFirstRegs (m : Machine) (bytes : List UInt8) :
    (m.setFirstRegs bytes).pc = m.pc := by rw [setFirstRegs]

theorem reg_setFirstRegs_of_lt (m : Machine) {bytes : List UInt8} {r : Fin 16}
    (h : r < bytes.length) : (m.setFirstRegs bytes).reg r = bytes.getD r 0 := by
  rw [reg_eq_getElem, setFirstRegs, Vector.getElem_ofFn, List.getD_eq_getElem?_getD,
    List.getElem?_eq_getElem h, Option.getD_some, Option.getD_some]

theorem reg_setFirstRegs_of_le (m : Machine) {bytes : List UInt8} {r : Fin 16}
    (h : bytes.length ≤ r) : (m.setFirstRegs bytes).reg r = m.reg r := by
  rw [reg_eq_getElem, setFirstRegs, Vector.getElem_ofFn, List.getElem?_eq_none h, Option.getD_none]

/-- **The bytes take the place of as many registers.** -/
theorem toList_setFirstRegs (m : Machine) {bytes : List UInt8} (h : bytes.length ≤ 16) :
    (m.setFirstRegs bytes).registers.toList = bytes ++ m.registers.toList.drop bytes.length := by
  refine List.ext_getElem (by simp; omega) fun i hi _ => ?_
  have hi' : i < 16 := by simpa using hi
  simp only [setFirstRegs, Vector.getElem_toList, Vector.getElem_ofFn]
  by_cases hb : i < bytes.length
  · rw [List.getElem_append_left hb, List.getElem?_eq_getElem hb, Option.getD_some]
  · have hle : bytes.length + (i - bytes.length) = i := by omega
    rw [List.getElem_append_right (by omega), List.getElem?_eq_none (by omega), Option.getD_none]
    simp [reg_eq_getElem, hle]

/-- Executes one instruction. -/
def execute (m : Machine) (op : Opcode) (f : Fields) : Effect :=
  let vx := m.reg f.x
  let vy := m.reg f.y
  let byte := UInt8.ofNat f.nn
  match op with
  | .clear => { m with screen := m.screen.clear }.advance
  | .ret =>
    match m.stack.pop with
    | .error e => m.fail (.stack e)
    | .ok (address, stack) => { m with stack := stack }.goTo (address + 2)
  | .jump => m.goTo f.nnn
  | .call =>
    match m.stack.push m.pc with
    | .error e => m.fail (.stack e)
    | .ok stack => { m with stack := stack }.goTo f.nnn
  | .skipEqByte => m.skipIf (vx == byte)
  | .skipNeByte => m.skipIf (vx != byte)
  | .skipEqReg => m.skipIf (vx == vy)
  | .skipNeReg => m.skipIf (vx != vy)
  | .loadByte => (m.setReg f.x byte).advance
  | .addByte => (m.setReg f.x (vx + byte)).advance
  | .copy => (m.setReg f.x vy).advance
  | .or => (m.setReg f.x (vx ||| vy)).advance
  | .and => (m.setReg f.x (vx &&& vy)).advance
  | .xor => (m.setReg f.x (vx ^^^ vy)).advance
  | .add => (m.setFlagged (flagOf (255 < vx.toNat + vy.toNat)) f.x (vx + vy)).advance
  | .sub => (m.setFlagged (flagOf (vy < vx)) f.x (vx - vy)).advance
  | .shiftRight => (m.setFlagged (vx % 2) f.x (vx / 2)).advance
  | .subFrom => (m.setFlagged (flagOf (vx < vy)) f.x (vy - vx)).advance
  | .shiftLeft => (m.setFlagged (vx / 128) f.x (2 * vx)).advance
  | .loadIndex => { m with index := f.nnn }.advance
  | .jumpOffset => m.goTo ((m.reg first).toNat + f.nnn)
  | .random =>
    let (value, random) := m.random.draw
    ({ m with random := random }.setReg f.x (UInt8.ofInt value &&& byte)).advance
  | .draw => m.drawSprite f
  | .skipPressed => m.skipIf (m.keypad.isPressed vx.toNat)
  | .skipReleased => m.skipIf (!m.keypad.isPressed vx.toNat)
  | .readDelay => (m.setReg f.x (UInt8.ofInt m.timers.delay)).advance
  | .waitKey =>
    let (wait, key?) := m.keyWait.poll m.keypad
    let m := { m with keyWait := wait }
    match key? with
    | none => m.goTo m.pc
    | some key => (m.setReg f.x (UInt8.ofNat key)).advance
  | .setDelay => { m with timers := { m.timers with delay := vx.toNat } }.advance
  | .setSound =>
    let source := match m.config.soundOperand with
      | .named => f.x
      | .lowNibble => f.n
    { m with timers := { m.timers with sound := (m.reg source).toNat } }.advance
  | .addIndex =>
    let total := m.index + vx.toNat
    { m.setReg flag (flagOf (0xFFF < total)) with index := total % 65536 }.advance
  | .glyph => { m with index := Font.address + vx.toNat * Font.glyphSize }.advance
  | .decimal =>
    match m.memory.load m.index [vx / 100, vx / 10 % 10, vx % 10] with
    | .error e => m.fail (.outOfBounds e)
    | .ok memory => { m with memory := memory }.advance
  | .store =>
    match m.memory.load m.index (m.firstRegs f.x) with
    | .error e => m.fail (.outOfBounds e)
    | .ok memory => { m with memory := memory, index := m.index + f.x + 1 }.advance
  | .load =>
    match m.memory.readBlock m.index (f.x + 1 : Nat) with
    | .error e => m.fail (.outOfBounds e)
    | .ok bytes => { m.setFirstRegs bytes with index := m.index + f.x + 1 }.advance

end ChipEight.Machine
