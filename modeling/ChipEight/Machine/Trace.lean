/-
# What a machine logs

Each executed word is traced before it takes effect, so a word that faults is
traced too; a word that is no instruction is not. Stopping is an error.
-/

import ChipEight.Log
import ChipEight.Machine.Step

namespace ChipEight

open Log

/-- The trace of a fetched word. -/
def traceLine? (pc word : Nat) : Option Record :=
  (Opcode.ofWord? word).map fun op =>
    ⟨.debug, .ofString (Numeral.hex 3 pc ++ ": " ++ Numeral.hex 4 word ++ "  "
      ++ op.text (Fields.ofWord word))⟩

/-- The records of a step. -/
def Outcome.records : Outcome → List Record
  | .ran pc word => (traceLine? pc word).toList
  | .stopped word? halt =>
    (word?.bind (traceLine? halt.pc)).toList
      ++ [⟨.error, .ofString ("Halted: " ++ halt.message)⟩]
  | .halted _ => []

/-- The records of a frame. -/
def FrameReport.records (r : FrameReport) : List Record := r.outcomes.flatMap Outcome.records

/-- The record of a program that was loaded. -/
def loadedRecord (program : List UInt8) : Record :=
  ⟨.info, .ofString ("Loaded ROM: " ++ toString program.length ++ " bytes at 0x"
    ++ Numeral.hex 3 Machine.programStart)⟩

end ChipEight
