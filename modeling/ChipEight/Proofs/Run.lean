/-
# Runs and requests

From one load to the next a machine makes steps, its keypad is latched and its timers
tick, in any order. A run is a list of such moves (`Machine.run`), and what every move
keeps is kept by a run (`Machine.Kept.run`). Its steps have outcomes
(`Machine.outcomes`).

A host asks for moves one by one or for whole frames, and every request is answered
(`Machine.answers`). A frame is a run, too: a latch, as many steps as its burst makes
and, if none of them failed, a tick. `Machine.moves` and `Machine.allMoves` spell out
the run that requests come to, and the answers tell the outcomes of its steps
(`Machine.serveAll_eq_run`, `Machine.outcomes_answers`).
-/

import ChipEight.Proofs.History

namespace ChipEight

/-- What can happen to a machine between two loads. -/
inductive Move
  | step
  | latch (keypad : Keypad)
  | tick
  deriving DecidableEq, Repr

/-- What a host can ask of a machine between two loads. -/
inductive Request
  | move (a : Move)
  /-- A frame, with a snapshot or null. -/
  | frame (snapshot : Value)

/-- What a host gets back. -/
inductive Answer
  | done
  /-- Of a step. -/
  | outcome (o : Outcome)
  /-- Of a frame. -/
  | report (r : Except SnapshotError FrameReport)

/-- The outcomes that an answer tells of. -/
def Answer.outcomes : Answer → List Outcome
  | .outcome o => [o]
  | .report (.ok r) => r.outcomes
  | _ => []

namespace Machine

/-- The machine after a move. -/
def move (m : Machine) : Move → Machine
  | .step => m.step.1
  | .latch keypad => { m with keypad := keypad }
  | .tick => m.tick

/-- The machine after a run. -/
def run (m : Machine) (moves : List Move) : Machine := moves.foldl move m

/-- The outcome of a move, if it is a step. -/
def outcome? (m : Machine) : Move → Option Outcome
  | .step => some m.step.2
  | _ => none

/-- The outcomes of the steps of a run. -/
def outcomes (m : Machine) : List Move → List Outcome
  | [] => []
  | a :: moves => (m.outcome? a).toList ++ (m.move a).outcomes moves

/-- The machine after a request. -/
def serve (m : Machine) : Request → Machine
  | .move a => m.move a
  | .frame snapshot => m.act (.frame snapshot)

/-- The answer to a request. -/
def answer (m : Machine) : Request → Answer
  | .move .step => .outcome m.step.2
  | .move _ => .done
  | .frame snapshot => .report ((m.runFrameHost snapshot).map Prod.snd)

/-- The machine after a row of requests. -/
def serveAll (m : Machine) (requests : List Request) : Machine := requests.foldl serve m

/-- The answers to a row of requests. -/
def answers (m : Machine) : List Request → List Answer
  | [] => []
  | r :: rest => m.answer r :: (m.serve r).answers rest

/-- The moves of a frame whose keys are latched: the steps of its burst and, if none of
them failed, a tick. -/
def frameMoves (m : Machine) : List Move :=
  .replicate m.runLatched.2.outcomes.length .step ++ if m.runLatched.2.ok then [.tick] else []

/-- The moves that a request is made of. -/
def moves (m : Machine) : Request → List Move
  | .move a => [a]
  | .frame .null => m.frameMoves
  | .frame snapshot =>
    match Keypad.latchHost snapshot with
    | .error _ => []
    | .ok keypad => .latch keypad :: { m with keypad := keypad }.frameMoves

/-- The moves that a row of requests is made of. -/
def allMoves (m : Machine) : List Request → List Move
  | [] => []
  | r :: rest => m.moves r ++ (m.serve r).allMoves rest

variable {m : Machine}

@[simp] theorem run_nil (m : Machine) : m.run [] = m := rfl

@[simp] theorem run_cons (m : Machine) (a : Move) (moves : List Move) :
    m.run (a :: moves) = (m.move a).run moves := rfl

@[simp] theorem run_append (m : Machine) (before after : List Move) :
    m.run (before ++ after) = (m.run before).run after := List.foldl_append

@[simp] theorem serveAll_nil (m : Machine) : m.serveAll [] = m := rfl

@[simp] theorem serveAll_cons (m : Machine) (r : Request) (requests : List Request) :
    m.serveAll (r :: requests) = (m.serve r).serveAll requests := rfl

theorem Kept.run {P : Machine → Prop} (hP : Kept P) (moves : List Move) (h : P m) :
    P (m.run moves) := by
  induction moves generalizing m with
  | nil => exact h
  | cons a moves ih =>
    rw [run_cons]
    cases a with
    | step => exact ih (hP.step h)
    | latch keypad => exact ih (hP.latch keypad h)
    | tick => exact ih (hP.tick h)

@[simp] theorem outcomes_append (m : Machine) (before after : List Move) :
    m.outcomes (before ++ after) = m.outcomes before ++ (m.run before).outcomes after := by
  induction before generalizing m with
  | nil => rfl
  | cons a before ih =>
    rw [List.cons_append, outcomes, ih, outcomes, List.append_assoc]
    rfl

/-- **A burst is a run of steps**, as many as it has outcomes. -/
theorem burst_eq_run (m : Machine) (n : Nat) :
    (m.burst n).1 = m.run (.replicate (m.burst n).2.length .step) ∧
      (m.burst n).2 = m.outcomes (.replicate (m.burst n).2.length .step) := by
  induction n generalizing m with
  | zero => exact ⟨rfl, rfl⟩
  | succ n ih =>
    rw [burst_succ]
    split
    · obtain ⟨hrun, houtcomes⟩ := ih m.step.1
      exact ⟨hrun, congrArg (m.step.2 :: ·) houtcomes⟩
    · exact ⟨rfl, rfl⟩

/-- **A frame whose keys are latched is a run.** -/
theorem runLatched_eq_run (m : Machine) :
    m.runLatched.1 = m.run m.frameMoves ∧ m.runLatched.2.outcomes = m.outcomes m.frameMoves := by
  obtain ⟨hrun, houtcomes⟩ := m.burst_eq_run m.config.instructionsPerFrame
  have hreport : m.runLatched.2.outcomes = (m.burst m.config.instructionsPerFrame).2 := by
    rw [runLatched_snd]
  rw [frameMoves, run_append, outcomes_append, runLatched_fst, hreport, ← hrun, ← houtcomes]
  cases m.runLatched.2.ok with
  | true => exact ⟨rfl, (List.append_nil _).symm⟩
  | false => exact ⟨rfl, (List.append_nil _).symm⟩

theorem moves_frame (m : Machine) {snapshot : Value} (hs : snapshot ≠ .null) :
    m.moves (.frame snapshot) = match Keypad.latchHost snapshot with
      | .error _ => []
      | .ok keypad => .latch keypad :: { m with keypad := keypad }.frameMoves := by
  rw [moves]
  exact hs

/-- **A request is a run, and its answer tells of the steps**, be it a frame or a
snapshot that is refused. -/
theorem serve_eq_run (m : Machine) (r : Request) :
    m.serve r = m.run (m.moves r) ∧ (m.answer r).outcomes = m.outcomes (m.moves r) := by
  cases r with
  | move a => cases a <;> exact ⟨rfl, rfl⟩
  | frame snapshot =>
    by_cases hs : snapshot = .null
    · subst hs
      exact m.runLatched_eq_run
    · rw [m.moves_frame hs, serve, act, answer, runFrameHost_eq m hs]
      cases Keypad.latchHost snapshot with
      | error e => exact ⟨rfl, rfl⟩
      | ok keypad => exact runLatched_eq_run { m with keypad := keypad }

/-- **Whatever a host asks for is a run.** -/
theorem serveAll_eq_run (m : Machine) (requests : List Request) :
    m.serveAll requests = m.run (m.allMoves requests) := by
  induction requests generalizing m with
  | nil => rfl
  | cons r requests ih => rw [serveAll_cons, ih, allMoves, run_append, (m.serve_eq_run r).1]

theorem Kept.serveAll {P : Machine → Prop} (hP : Kept P) (requests : List Request) (h : P m) :
    P (m.serveAll requests) := by
  rw [serveAll_eq_run]
  exact hP.run _ h

/-- **The answers tell of every step of the run.** -/
theorem outcomes_answers (m : Machine) (requests : List Request) :
    (m.answers requests).flatMap Answer.outcomes = m.outcomes (m.allMoves requests) := by
  induction requests generalizing m with
  | nil => rfl
  | cons r requests ih =>
    obtain ⟨hrun, houtcomes⟩ := m.serve_eq_run r
    rw [answers, List.flatMap_cons, ih, allMoves, outcomes_append, houtcomes, hrun]

end Machine
end ChipEight
