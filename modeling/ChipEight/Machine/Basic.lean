/-
# The machine

Memory, sixteen byte registers, the index register, the program counter, the call
stack, the timers, the keypad, the screen and the state of a key wait, with the
source of random bytes and a count of the steps done. A machine with a halt is
stopped until a program is loaded again.
-/

import ChipEight.Config
import ChipEight.Fault
import ChipEight.Font
import ChipEight.RandomSource
import ChipEight.Screen
import ChipEight.Timers

namespace ChipEight

/-- A machine. -/
structure Machine where
  config : Config
  memory : Memory
  /-- `V0` to `VF`; the last doubles as carry, borrow and collision flag. -/
  registers : Vector UInt8 16
  index : Nat
  pc : Nat
  stack : CallStack
  timers : Timers
  keypad : Keypad
  screen : Screen 64 32
  keyWait : KeyWait
  halt : Option Halt
  cycles : Nat
  random : RandomSource

namespace Machine

/-- Where programs are loaded and start. -/
def programStart : Nat := 0x200

/-- Slots of the call stack. -/
def stackDepth : Nat := 16

/-- A machine without a program, its memory all zero. -/
def new (config : Config) (random : RandomSource) : Machine where
  config := config
  memory := .blank config.memorySize
  registers := .replicate 16 0
  index := 0
  pc := programStart
  stack := .empty stackDepth
  timers := {}
  keypad := .released
  screen := .blank 64 32
  keyWait := { mode := config.keyWait }
  halt := none
  cycles := 0
  random := random

/-- Everything as in a new machine, but the program counter and the random bytes
go on from where they are. -/
def reset (m : Machine) : Machine :=
  { m with
    memory := m.memory.clear
    registers := .replicate 16 0
    index := 0
    stack := m.stack.clear
    timers := m.timers.clear
    keypad := .released
    screen := m.screen.clear
    keyWait := m.keyWait.reset
    halt := none
    cycles := 0 }

/-- Resets the machine, puts the glyphs in and then the program. A program that
does not fit is refused, and leaves a machine that is reset, with the glyphs in
it, and with the program counter where it was. -/
def loadProgram (m : Machine) (program : List UInt8) :
    Machine × Except Memory.OutOfBounds Unit :=
  let m := m.reset
  match m.memory.load Font.address Font.glyphs with
  | .error e => (m, .error e)
  | .ok memory =>
    match memory.load programStart program with
    | .error e => ({ m with memory := memory }, .error e)
    | .ok memory => ({ m with memory := memory, pc := programStart }, .ok ())

theorem register_lt (r : Fin 16) : (r : Nat) < 16 := r.isLt

/-- The byte in a register. -/
def reg (m : Machine) (r : Fin 16) : UInt8 := m.registers.get r

theorem zero_lt_sixteen : 0 < 16 := by decide

/-- The first register. -/
def first : Fin 16 := ⟨0, zero_lt_sixteen⟩

/-- The register that takes flags, the last. -/
def flag : Fin 16 := .last 15

/-- The machine with a byte put into a register. -/
def setReg (m : Machine) (r : Fin 16) (b : UInt8) : Machine :=
  { m with registers := m.registers.set r b (register_lt r) }

/-- One tick of both timers. -/
def tick (m : Machine) : Machine := { m with timers := m.timers.tick }

theorem reg_eq_getElem (m : Machine) (r : Fin 16) : m.reg r = m.registers[r.val] := rfl

@[simp] theorem memory_setReg (m : Machine) (r : Fin 16) (b : UInt8) :
    (m.setReg r b).memory = m.memory := rfl

@[simp] theorem index_setReg (m : Machine) (r : Fin 16) (b : UInt8) :
    (m.setReg r b).index = m.index := rfl

@[simp] theorem reg_setReg_self (m : Machine) (r : Fin 16) (b : UInt8) :
    (m.setReg r b).reg r = b := by
  rw [reg_eq_getElem]
  exact Vector.getElem_set_self _

theorem reg_setReg_of_ne (m : Machine) {r s : Fin 16} (b : UInt8) (h : s ≠ r) :
    (m.setReg r b).reg s = m.reg s := by
  rw [reg_eq_getElem, reg_eq_getElem]
  exact Vector.getElem_set_ne (register_lt r) (register_lt s) fun e => h (Fin.ext e.symm)

/-- Putting a byte into a register changes nothing if it is there already. -/
theorem setReg_eq_self {m : Machine} {r : Fin 16} {b : UInt8} : m.setReg r b = m ↔ m.reg r = b := by
  constructor
  · intro h
    rw [← h, reg_setReg_self]
  · rintro rfl
    rw [setReg, reg_eq_getElem, Vector.set_getElem_self]

end Machine
end ChipEight
