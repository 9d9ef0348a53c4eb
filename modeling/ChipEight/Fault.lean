/-
# Faults

What can stop a running program. A fault is a cause; a `Halt` is a fault with the
address of the instruction that failed.
-/

import ChipEight.CallStack
import ChipEight.Memory

namespace ChipEight

/-- Why an instruction failed. -/
inductive Fault
  /-- The word is no instruction. -/
  | invalidInstruction (word : Nat)
  /-- A fetch or an operand left the memory. -/
  | outOfBounds (access : Memory.OutOfBounds)
  /-- A call or a return went over the end of the stack, or had an address that
  fits no slot. -/
  | stack (error : CallStack.Error)
  deriving DecidableEq, Repr

/-- A fault and the address of the instruction that failed. -/
structure Halt where
  fault : Fault
  pc : Nat
  deriving DecidableEq, Repr

/-- Wording of a refused stack operation. -/
def CallStack.Error.message : CallStack.Error → String
  | .overflow => "Stack overflow on CALL"
  | .underflow => "Stack underflow on RET"
  | .notAddress value => "Return address " ++ toString value ++ " out of range"

/-- Wording of a halt. -/
def Halt.message (h : Halt) : String :=
  match h.fault with
  | .invalidInstruction word =>
    "Invalid instruction " ++ Numeral.hex 4 word ++ " at " ++ Numeral.hex 3 h.pc
  | .outOfBounds access => access.message
  | .stack error => error.message

end ChipEight
