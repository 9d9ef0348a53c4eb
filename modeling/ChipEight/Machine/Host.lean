/-
# What a host hands to a machine

A host may hand over programs and snapshots as values. A value that is no program
is refused before the machine is touched, and so is one that is no snapshot; a
frame without a snapshot is asked for by null.
-/

import ChipEight.Machine.Step
import ChipEight.Value

namespace ChipEight

/-- Why a host's bytes are not loaded. -/
inductive LoadError
  /-- The value stands for no bytes. -/
  | notBytes (mismatch : Value.Mismatch)
  /-- They do not fit. -/
  | outOfBounds (access : Memory.OutOfBounds)
  deriving DecidableEq, Repr

/-- Why a host's snapshot is not latched. -/
inductive SnapshotError
  /-- The value has no entries. -/
  | noEntries
  /-- It has not sixteen of them. -/
  | badLength (snapshot : Keypad.BadSnapshot)
  deriving DecidableEq, Repr

/-- The entries of a host's snapshot. -/
def snapshotOf (v : Value) : Except SnapshotError (List Bool) :=
  match v.truths? with
  | none => .error .noEntries
  | some entries => .ok entries

/-- The keypad shown by a host's snapshot. -/
def Keypad.latchHost (v : Value) : Except SnapshotError Keypad := do
  (Keypad.latch (← snapshotOf v)).mapError .badLength

/-- Bytes that fit no memory of this size. -/
def Memory.tooMany (m : Memory) : Nat := m.size + 1

/-- Stores a host's bytes. -/
def Memory.loadHost (m : Memory) (address : Int) (data : Value) : Except LoadError Memory :=
  match data.toBytes m.tooMany with
  | .error e => .error (.notBytes e)
  | .ok bytes => (m.load address bytes).mapError .outOfBounds

namespace Machine

/-- Loads a host's program; answers its bytes. -/
def loadHost (m : Machine) (program : Value) : Machine × Except LoadError (List UInt8) :=
  match program.toBytes m.memory.tooMany with
  | .error e => (m, .error (.notBytes e))
  | .ok bytes =>
    match m.loadProgram bytes with
    | (m, .error e) => (m, .error (.outOfBounds e))
    | (m, .ok ()) => (m, .ok bytes)

/-- One frame with a host's snapshot, or without one. -/
def runFrameHost (m : Machine) : Value → Except SnapshotError (Machine × FrameReport)
  | .null => .ok m.runLatched
  | v => do
    (m.runFrame (some (← snapshotOf v))).mapError .badLength

/-- A snapshot that is not null is latched, and then the frame runs. -/
theorem runFrameHost_eq (m : Machine) {snapshot : Value} (h : snapshot ≠ .null) :
    m.runFrameHost snapshot
      = (Keypad.latchHost snapshot).map fun keypad => { m with keypad := keypad }.runLatched := by
  rw [runFrameHost, Keypad.latchHost]
  · cases snapshotOf snapshot with
    | error e => rfl
    | ok entries =>
      show (((Keypad.latch entries).map _).map _).mapError _
        = ((Keypad.latch entries).mapError _).map _
      cases Keypad.latch entries <;> rfl
  · exact h

end Machine
end ChipEight
