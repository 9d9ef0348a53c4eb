/-
# Configuration

The settings of a machine and of its window. A `Config` has passed every range
check (`Config.Valid`).
-/

import ChipEight.KeyWait

namespace ChipEight

/-- Which register an `Fx18` word loads the sound timer from. -/
inductive SoundOperand
  /-- `Vx`. -/
  | named
  /-- The register of the low nibble, always `V8`. -/
  | lowNibble
  deriving DecidableEq, Repr

/-- The name of a choice. -/
def SoundOperand.name : SoundOperand → String
  | .named => "x"
  | .lowNibble => "n"

/-- The settings. -/
structure Config where
  /-- Steps in a frame. -/
  instructionsPerFrame : Nat := 10
  /-- Milliseconds from frame to frame. -/
  frameInterval : Float := 1000 / 60
  /-- Bytes of memory. -/
  memorySize : Nat := 4096
  /-- The register of `Fx18`. -/
  soundOperand : SoundOperand := .named
  /-- What ends a wait for a key. -/
  keyWait : KeyWait.Mode := .onRelease
  /-- Window pixels for a screen pixel, in both directions. -/
  scale : Nat := 10
  /-- The seed of the random bytes. -/
  seed : Option Int := none

namespace Config

/-- The least memory: the space below the program and one instruction. -/
def minMemory : Nat := 0x202

/-- The largest memory, all that sixteen bits address. -/
def maxMemory : Nat := 0x10000

/-- Seconds from frame to frame. -/
def frameSeconds (c : Config) : Float := c.frameInterval / 1000

end Config
end ChipEight
