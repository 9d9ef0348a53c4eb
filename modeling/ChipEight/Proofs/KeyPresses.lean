/-
# One key, one answer

Where a wait for a key awaits the release, it takes two looks at a keypad that differ: one
with the key down and one with it up. So a keypad that stays as it is answers no wait that
begins on it, and of the waits before at most the one that has observed a key which is up by
now.

`Machine.answersLeft` counts the waits that the present keypad can still end, none or one.
A step that ends a wait uses it up, and no step brings it back
(`Machine.endsWait_add_answersLeft_step`), so along a run in which nothing is latched it
bounds the waits that end (`Machine.waitsEnded_add_answersLeft_run`).
-/

import ChipEight.Proofs.Halted
import ChipEight.Proofs.KeyEvents
import ChipEight.Proofs.ObservedKey

namespace ChipEight.Machine

variable {c : Config} {random : RandomSource} {m m' : Machine} {moves : List Move}

/-- The next step executes an instruction that waits for a key, and goes on behind it. -/
def EndsWait (m : Machine) : Prop :=
  m.step.2.op? = some .waitKey ∧ m.step.1.pc ≠ m.pc

instance (m : Machine) : Decidable m.EndsWait := inferInstanceAs (Decidable (_ ∧ _))

/-- How many waits end in a run. -/
def waitsEnded (m : Machine) : List Move → Nat
  | [] => 0
  | a :: moves => (if a = .step ∧ m.EndsWait then 1 else 0) + (m.move a).waitsEnded moves

/-- How many waits the keypad as it is can still end. -/
def answersLeft (m : Machine) : Nat :=
  match m.keyWait.phase with
  | .observed key => if m.keypad.isPressed (key : Nat) then 0 else 1
  | _ => 0

theorem answersLeft_le_one (m : Machine) : m.answersLeft ≤ 1 := by
  unfold answersLeft
  repeat' split
  all_goals omega

/-- An answer is left exactly if a key was observed that is up. -/
theorem answersLeft_pos_iff : 0 < m.answersLeft ↔
    ∃ key, m.keyWait.phase = .observed key ∧ m.keypad.isPressed (key : Nat) = false := by
  unfold answersLeft
  cases m.keyWait.phase with
  | observed key => by_cases hd : m.keypad.isPressed (key : Nat) = true <;> simp [hd]
  | idle | resolved _ => simp

theorem answersLeft_congr (hwait : m'.keyWait = m.keyWait) (hpad : m'.keypad = m.keypad) :
    m'.answersLeft = m.answersLeft := by
  rw [answersLeft, answersLeft, hwait, hpad]

theorem mode_step (m : Machine) : m.step.1.keyWait.mode = m.keyWait.mode :=
  step_inherits rfl (mode_execute m) (fun _ _ _ h => h) (fun _ _ _ h => h)

/-- A step that fails leaves the wait as it was. -/
theorem keyWait_step_of_not_ok (h : m.step.2.ok = false) : m.step.1.keyWait = m.keyWait := by
  refine step_inherits_of_not_ok h rfl ?execute (fun _ _ _ h => h)
  intro op f m' fault hx
  by_cases hop : op = .waitKey
  · subst hop
    rw [execute_waitKey] at hx
    split at hx <;> cases hx
  · have same := (sameOutside_execute m op f).keyWait (decide_eq_false hop)
    rwa [hx] at same

/-- A step that executes another instruction, or none, leaves the wait as it was. -/
theorem keyWait_step (h : m.step.2.op? ≠ some .waitKey) : m.step.1.keyWait = m.keyWait := by
  cases ho : m.step.2 with
  | ran pc word =>
    obtain ⟨-, -, op, hop, effects⟩ := effects_of_ran ho
    refine effects.keyWait (decide_eq_false fun hwait => h ?_)
    rw [ho, Outcome.op?, hop, hwait]
  | stopped _ _ => exact keyWait_step_of_not_ok (by rw [ho]; rfl)
  | halted _ => exact keyWait_step_of_not_ok (by rw [ho]; rfl)

/-- **What a step does to the answers left:** one that ends a wait takes one, and none adds
any. -/
theorem endsWait_add_answersLeft_step (hmode : m.keyWait.mode = .onRelease) :
    (if m.EndsWait then 1 else 0) + m.step.1.answersLeft ≤ m.answersLeft := by
  by_cases hop : m.step.2.op? = some .waitKey
  · cases ho : m.step.2 with
    | ran pc word =>
      rw [ho] at hop
      obtain ⟨m', next, hx, hs⟩ := execute_of_ran_op ho hop
      rw [execute_waitKey] at hx
      split at hx
      next hnone =>
        -- The wait goes on, with no key observed or with one that is down.
        obtain ⟨rfl, hn⟩ := Prod.mk.inj hx
        obtain rfl := Except.ok.inj hn
        have hends : ¬ m.EndsWait := fun h => h.2 (by rw [hs])
        have hleft : ¬ 0 < m.step.1.answersLeft := by
          rw [answersLeft_pos_iff, hs]
          rintro ⟨key, hphase, hup⟩
          cases hup.symm.trans (KeyWait.poll_of_observed hphase).2.2
        rw [if_neg hends]
        omega
      next key hsome =>
        obtain ⟨rfl, -⟩ := Prod.mk.inj hx
        obtain ⟨hphase, hup, hresolved⟩ := KeyWait.poll_of_answer hmode hsome
        have hbefore : 0 < m.answersLeft := answersLeft_pos_iff.2 ⟨key, hphase, hup⟩
        have hleft : m.step.1.answersLeft = 0 := by
          rw [hs]
          simp only [answersLeft, setReg, hresolved]
        rw [hleft]
        split <;> omega
    | stopped _ _ | halted _ =>
      rw [ho] at hop
      cases hop
  · have hends : ¬ m.EndsWait := fun h => hop h.1
    rw [if_neg hends, answersLeft_congr (keyWait_step hop) m.keypad_step, Nat.zero_add]

/-- **What a run does to the answers left**, as long as nothing is latched. -/
theorem waitsEnded_add_answersLeft_run (hmode : m.keyWait.mode = .onRelease)
    (hmoves : ∀ keypad, Move.latch keypad ∉ moves) :
    m.waitsEnded moves + (m.run moves).answersLeft ≤ m.answersLeft := by
  induction moves generalizing m with
  | nil => exact Nat.le_of_eq (Nat.zero_add _)
  | cons a moves ih =>
    have hrest : ∀ keypad, Move.latch keypad ∉ moves :=
      fun keypad h => hmoves keypad (List.mem_cons_of_mem a h)
    rw [waitsEnded, run_cons]
    cases a with
    | step =>
      have hstep := endsWait_add_answersLeft_step hmode
      have hrun := ih (m.mode_step.trans hmode) hrest
      simp only [move, true_and]
      omega
    | latch keypad => exact absurd List.mem_cons_self (hmoves keypad)
    | tick =>
      have hrun := ih (m := m.tick) hmode hrest
      have htick : m.tick.answersLeft = m.answersLeft := answersLeft_congr rfl rfl
      rw [if_neg (fun h => by cases h.1)]
      simp only [move]
      omega

/-- At most one wait ends in the run, and one at all only if a key was observed that is up on
the keypad. -/
def EndsOneWait (m : Machine) (moves : List Move) (keypad : Keypad) : Prop :=
  m.waitsEnded moves ≤ 1 ∧ (0 < m.waitsEnded moves →
    ∃ key, m.keyWait.phase = .observed key ∧ keypad.isPressed (key : Nat) = false)

theorem endsOneWait_of_not_latched (hmode : m.keyWait.mode = .onRelease)
    (hmoves : ∀ keypad, Move.latch keypad ∉ moves) : m.EndsOneWait moves m.keypad := by
  have hrun := waitsEnded_add_answersLeft_run hmode hmoves
  have hone := m.answersLeft_le_one
  exact ⟨by omega, fun hpos => answersLeft_pos_iff.1 (by omega)⟩

theorem latch_not_mem_frameMoves (m : Machine) (keypad : Keypad) :
    Move.latch keypad ∉ m.frameMoves := by
  rw [frameMoves, List.mem_append, not_or]
  constructor
  · rw [List.mem_replicate]
    exact fun h => by cases h.2
  · split <;> simp

/-- **A frame ends one wait at most**, whatever snapshot it is given. -/
theorem endsOneWait_frame (hmode : m.keyWait.mode = .onRelease) (snapshot : Value) :
    m.EndsOneWait (m.moves (.frame snapshot)) (m.keypad.after (.frame snapshot)) := by
  by_cases hs : snapshot = .null
  · subst hs
    exact endsOneWait_of_not_latched hmode m.latch_not_mem_frameMoves
  · rw [m.moves_frame hs, Keypad.after]
    cases hk : Keypad.latchHost snapshot with
    | error e => exact ⟨Nat.zero_le 1, fun h => absurd h (Nat.lt_irrefl 0)⟩
    | ok keypad =>
      have hframe := endsOneWait_of_not_latched (m := { m with keypad := keypad }) hmode
        (latch_not_mem_frameMoves { m with keypad := keypad })
      simp only [EndsOneWait, waitsEnded]
      rw [if_neg (fun h => by cases h.1), Nat.zero_add]
      exact hframe

/-- **A key press ends one wait at most.** Of a reachable machine whose waits await the
release, take any run of steps and ticks in which the keypad is not latched again, or any
frame: at most one wait ends in it, and none unless the run begins with a key observed that
is up on the keypad that its steps see. -/
theorem one_answer_per_latch (hc : c.keyWait = .onRelease) (h : Reachable c random m) :
    (∀ moves : List Move, (∀ keypad, .latch keypad ∉ moves) → m.EndsOneWait moves m.keypad) ∧
      ∀ snapshot : Value, m.act (.frame snapshot) = m.run (m.moves (.frame snapshot)) ∧
        m.EndsOneWait (m.moves (.frame snapshot)) (m.keypad.after (.frame snapshot)) := by
  have hmode : m.keyWait.mode = .onRelease := (Sound.of_reachable h).mode.trans hc
  refine ⟨fun moves => endsOneWait_of_not_latched hmode, fun snapshot => ⟨?_, ?_⟩⟩
  · exact (m.serve_eq_run (.frame snapshot)).1
  · exact endsOneWait_frame hmode snapshot

/-- A machine whose program waits for two keys, one after the other. It has observed the last
key. -/
def twoWaits : Machine :=
  ((new small .zeros).act (.load (.bytes [0xF0, 0x0A, 0xF1, 0x0A]))).act (.frame lastKeyDown)

theorem reachable_twoWaits : Reachable small .zeros twoWaits := .act _ (.act _ .new)

/-- A snapshot of a host with only the first key down. -/
def firstKeyDown : Value := .list (.int 1 :: .replicate 15 (.int 0))

theorem one_answer_per_latch_twoWaits :
    twoWaits.waitsEnded (twoWaits.moves (.frame firstKeyDown)) = 1 ∧
      (∃ key, twoWaits.keyWait.phase = .observed key ∧
        (twoWaits.keypad.after (.frame firstKeyDown)).isPressed (key : Nat) = false) ∧
      (twoWaits.act (.frame firstKeyDown)).reg 0 = 15 ∧
      (twoWaits.act (.frame firstKeyDown)).pc = 0x202 ∧
      (twoWaits.act (.frame firstKeyDown)).keyWait.phase = .observed 0 := by
  have hrun : 0 < twoWaits.waitsEnded (twoWaits.moves (.frame firstKeyDown)) ∧
      (twoWaits.act (.frame firstKeyDown)).reg 0 = 15 ∧
      (twoWaits.act (.frame firstKeyDown)).pc = 0x202 ∧
      (twoWaits.act (.frame firstKeyDown)).keyWait.phase = .observed 0 := by
    decide +kernel
  obtain ⟨hpos, hafter⟩ := hrun
  obtain ⟨-, hle, hkey⟩ := (one_answer_per_latch (by decide) reachable_twoWaits).2 firstKeyDown
  exact ⟨Nat.le_antisymm hle hpos, hkey hpos, hafter⟩

end ChipEight.Machine
