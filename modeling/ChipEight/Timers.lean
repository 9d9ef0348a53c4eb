/-
# The delay and the sound timer

Both count down once per tick and rest at zero.
-/

namespace ChipEight

/-- The two counters. -/
structure Timers where
  delay : Int := 0
  sound : Int := 0
  deriving DecidableEq, Repr

namespace Timers

/-- One step down for a counter above zero. -/
def countDown (n : Int) : Int := if 0 < n then n - 1 else n

/-- One tick of both. -/
def tick (t : Timers) : Timers := ⟨countDown t.delay, countDown t.sound⟩

/-- Both at rest. -/
def clear (_ : Timers) : Timers := {}

theorem countDown_of_nonneg {n : Int} (h : 0 ≤ n) : countDown n = max 0 (n - 1) := by
  unfold countDown; split <;> omega

end Timers
end ChipEight
