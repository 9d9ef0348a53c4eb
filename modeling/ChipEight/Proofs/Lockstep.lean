/-
# Machines in lockstep

Two machines may differ and yet go the same way. `Machine.Lockstep` is what a relation
of machines has to keep for that: frames of one length, and across a step with one
outcome, a latch and a tick the relation itself. A relation that is kept so is kept by
whatever a host asks for, and all answers are the same (`Machine.Lockstep.serveAll`). For
a step it is enough to look at the word fetched and the instruction
(`Machine.Stepwise.step`).

A kind of faults may be left out. As long as the first machine is not stopped by one of
them the two keep together; a machine that is stopped stays so
(`Machine.StoppedBy.run`).
-/

import ChipEight.Proofs.Run

namespace ChipEight.Machine

/-- The machine was stopped by a fault of the kind. -/
def StoppedBy (kind : Fault → Prop) (m : Machine) : Prop :=
  ∃ halt, m.halt = some halt ∧ kind halt.fault

/-- What keeps two machines together until the first is stopped by a fault of the
kind. -/
structure Lockstep (kind : Fault → Prop) (R : Machine → Machine → Prop) : Prop where
  frames : ∀ {m m'}, R m m' →
    m'.config.instructionsPerFrame = m.config.instructionsPerFrame
  step : ∀ {m m'}, R m m' → ¬ m.step.1.StoppedBy kind →
    R m.step.1 m'.step.1 ∧ m'.step.2 = m.step.2
  latch : ∀ {m m'} keypad, R m m' → R { m with keypad := keypad } { m' with keypad := keypad }
  tick : ∀ {m m'}, R m m' → R m.tick m'.tick

/-- What of a relation carries over from an instruction to the step that executes it. -/
structure Stepwise (R : Machine → Machine → Prop) : Prop where
  pc : ∀ {m m'}, R m m' → m'.pc = m.pc
  halt : ∀ {m m'}, R m m' → m'.halt = m.halt
  stop : ∀ {m m'} halt, R m m' → R { m with halt := some halt } { m' with halt := some halt }
  next : ∀ {m m'} pc, R m m' →
    R { m with pc := pc, cycles := m.cycles + 1 } { m' with pc := pc, cycles := m'.cycles + 1 }

variable {kind : Fault → Prop} {R : Machine → Machine → Prop} {m m' : Machine}

theorem Stepwise.stop_alike (hR : Stepwise R) (h : R m m') (word? : Option Nat) (fault : Fault) :
    R (m.stop word? fault).1 (m'.stop word? fault).1 ∧
      (m'.stop word? fault).2 = (m.stop word? fault).2 := by
  have hhalt : (⟨fault, m'.pc⟩ : Halt) = ⟨fault, m.pc⟩ := by rw [hR.pc h]
  rw [Machine.stop, Machine.stop, hhalt]
  exact ⟨hR.stop _ h, rfl⟩

/-- **Machines step alike** if they fetch one word and execute its operation alike. -/
theorem Stepwise.step (hR : Stepwise R) (h : R m m')
    (hfetch : m'.memory.readWord m.pc = m.memory.readWord m.pc)
    (hexecute : ∀ word op, m.memory.readWord m.pc = .ok word → Opcode.ofWord? word = some op →
      R (m.execute op (Fields.ofWord word)).1 (m'.execute op (Fields.ofWord word)).1 ∧
        (m'.execute op (Fields.ofWord word)).2 = (m.execute op (Fields.ofWord word)).2) :
    R m.step.1 m'.step.1 ∧ m'.step.2 = m.step.2 := by
  unfold Machine.step
  rw [hR.halt h, hR.pc h, hfetch]
  cases m.halt with
  | some halt => exact ⟨h, rfl⟩
  | none =>
    cases hw : m.memory.readWord m.pc with
    | error e => exact hR.stop_alike h none _
    | ok word =>
      dsimp only
      cases ho : Opcode.ofWord? word with
      | none => exact hR.stop_alike h (some word) _
      | some op =>
        obtain ⟨hx, he⟩ := hexecute word op hw ho
        dsimp only
        rcases hn : m.execute op (Fields.ofWord word) with ⟨n, e⟩
        rcases hn' : m'.execute op (Fields.ofWord word) with ⟨n', e'⟩
        rw [hn, hn'] at hx he
        obtain rfl : e' = e := he
        cases e' with
        | error fault => exact hR.stop_alike hx (some word) fault
        | ok next => exact ⟨hR.next next hx, rfl⟩

theorem not_stoppedBy_of_running (h : m.halt = none) : ¬ m.StoppedBy kind := by
  rintro ⟨halt, hm, -⟩
  cases hm.symm.trans h

namespace StoppedBy

theorem move (h : m.StoppedBy kind) (a : Move) : (m.move a).StoppedBy kind := by
  cases a with
  | step =>
    obtain ⟨halt, hm, _⟩ := id h
    rw [Machine.move, step_of_halt hm]
    exact h
  | latch keypad => exact h
  | tick => exact h

/-- **A machine that is stopped stays so.** -/
theorem run (h : m.StoppedBy kind) (moves : List Move) : (m.run moves).StoppedBy kind := by
  induction moves generalizing m with
  | nil => exact h
  | cons a moves ih => exact ih (h.move a)

theorem burst (h : m.StoppedBy kind) (n : Nat) : (m.burst n).1.StoppedBy kind := by
  rw [(m.burst_eq_run n).1]
  exact h.run _

theorem serveAll (h : m.StoppedBy kind) (requests : List Request) :
    (m.serveAll requests).StoppedBy kind := by
  rw [serveAll_eq_run]
  exact h.run _

end StoppedBy

namespace Lockstep

variable (hR : Lockstep kind R)
include hR

theorem burst (h : R m m') (n : Nat) (hn : ¬ (m.burst n).1.StoppedBy kind) :
    R (m.burst n).1 (m'.burst n).1 ∧ (m'.burst n).2 = (m.burst n).2 := by
  induction n generalizing m m' with
  | zero => exact ⟨h, rfl⟩
  | succ n ih =>
    have hstep : ¬ m.step.1.StoppedBy kind := by
      intro hs
      refine hn ?_
      rw [burst_succ]
      split
      · exact hs.burst n
      · exact hs
    obtain ⟨hr, ho⟩ := hR.step h hstep
    rw [burst_succ] at hn ⊢
    rw [burst_succ, ho]
    split at hn
    next hok =>
      obtain ⟨hrs, hos⟩ := ih hr hn
      rw [if_pos hok, if_pos hok]
      exact ⟨hrs, congrArg (m.step.2 :: ·) hos⟩
    next hok =>
      rw [if_neg hok, if_neg hok]
      exact ⟨hr, rfl⟩

theorem runLatched (h : R m m') (hm : ¬ m.runLatched.1.StoppedBy kind) :
    R m.runLatched.1 m'.runLatched.1 ∧ m'.runLatched.2 = m.runLatched.2 := by
  have hburst : ¬ (m.burst m.config.instructionsPerFrame).1.StoppedBy kind := by
    intro hs
    refine hm ?_
    rw [runLatched_fst]
    split
    · exact hs.move .tick
    · exact hs
  obtain ⟨hr, ho⟩ := hR.burst h _ hburst
  have hreport : m'.runLatched.2 = m.runLatched.2 := by
    rw [runLatched_snd, runLatched_snd, hR.frames h, ho]
  refine ⟨?_, hreport⟩
  rw [runLatched_fst, runLatched_fst, hreport, hR.frames h]
  split
  · exact hR.tick hr
  · exact hr

/-- A request is answered alike. -/
theorem serve (h : R m m') (r : Request) (hr : ¬ (m.serve r).StoppedBy kind) :
    R (m.serve r) (m'.serve r) ∧ m'.answer r = m.answer r := by
  cases r with
  | move a =>
    cases a with
    | step =>
      obtain ⟨hs, ho⟩ := hR.step h hr
      exact ⟨hs, congrArg Answer.outcome ho⟩
    | latch keypad => exact ⟨hR.latch keypad h, rfl⟩
    | tick => exact ⟨hR.tick h, rfl⟩
  | frame snapshot =>
    by_cases hs : snapshot = .null
    · subst hs
      obtain ⟨hf, ho⟩ := hR.runLatched h hr
      exact ⟨hf, congrArg (fun r => Answer.report (.ok r)) ho⟩
    · simp only [Machine.serve, act, answer, runFrameHost_eq _ hs] at hr ⊢
      cases hk : Keypad.latchHost snapshot with
      | error e => exact ⟨h, rfl⟩
      | ok keypad =>
        rw [hk] at hr
        obtain ⟨hf, ho⟩ := hR.runLatched (hR.latch keypad h) hr
        exact ⟨hf, congrArg (fun r => Answer.report (.ok r)) ho⟩

/-- **Machines in lockstep stay together** and answer alike however many requests come,
until the first is stopped by a fault of the kind. -/
theorem serveAll (h : R m m') (requests : List Request)
    (hm : ¬ (m.serveAll requests).StoppedBy kind) :
    R (m.serveAll requests) (m'.serveAll requests) ∧
      m'.answers requests = m.answers requests := by
  induction requests generalizing m m' with
  | nil => exact ⟨h, rfl⟩
  | cons r requests ih =>
    obtain ⟨hr, ha⟩ := hR.serve h r fun hs => hm (hs.serveAll requests)
    obtain ⟨hrs, has⟩ := ih hr hm
    refine ⟨hrs, ?_⟩
    rw [answers, answers, ha, has]

end Lockstep
end ChipEight.Machine
