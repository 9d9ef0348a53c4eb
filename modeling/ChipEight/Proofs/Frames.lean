/-
# What frames add up to

A frame is a burst of steps with a tick behind it, and a fault cuts it short before the
tick. `Machine.Accounted` says of one frame how many steps it executed, that it is whole
exactly if these are all that it may, and that both timers tick once exactly then
(`Machine.accounted_runLatched`).

Over any row of frames, then, the count of steps grows by all that were executed
(`Machine.cycles_serveAll`), and a delay timer that is left alone counts down the frames
that are whole and rests at zero (`Machine.delay_frames`); what `Fx07` reads in between
is that count (`Machine.frames_add_up`).
-/

import ChipEight.Proofs.Effects
import ChipEight.Proofs.Surroundings
import ChipEight.Proofs.Wide.Bytes

namespace ChipEight

/-- The operation that a step executed. -/
def Outcome.op? : Outcome → Option Opcode
  | .ran _ word => Opcode.ofWord? word
  | _ => none

/-- How many steps an answer tells of that succeeded. -/
def Answer.executed (a : Answer) : Nat := a.outcomes.countP Outcome.ok

/-- The answer is that of a frame which no fault has cut short. -/
def Answer.whole : Answer → Bool
  | .report (.ok r) => r.ok
  | _ => false

namespace Machine

variable {c : Config} {random : RandomSource} {m m' : Machine} {n : Nat} {pc word : Nat}
  {moves : List Move} {op : Opcode} {f : Fields}

/-- The machine after so many steps. -/
def steps (m : Machine) (n : Nat) : Machine := m.run (.replicate n .step)

@[simp] theorem steps_zero (m : Machine) : m.steps 0 = m := rfl

theorem steps_succ (m : Machine) (n : Nat) : m.steps (n + 1) = m.step.1.steps n := rfl

theorem step_steps (m : Machine) (n : Nat) : (m.steps n).step.1 = m.steps (n + 1) := by
  rw [steps, steps, List.replicate_succ', run_append]
  rfl

/-- If a step succeeds and those behind it do, all of them succeed. -/
theorem ok_steps_succ (hok : m.step.2.ok = true)
    (h : ∀ k < n, (m.step.1.steps k).step.2.ok = true) :
    ∀ k < n + 1, (m.steps k).step.2.ok = true := by
  intro k hk
  cases k with
  | zero => exact hok
  | succ k => exact h k (Nat.lt_of_succ_lt_succ hk)

/-- **How a burst can go:** all of its steps succeed, or the first that fails ends it. -/
theorem burst_cases (m : Machine) (n : Nat) :
    (∀ k < n, (m.steps k).step.2.ok = true) ∧ (m.burst n).1 = m.steps n ∧
        (m.burst n).2.countP Outcome.ok = n ∧ (m.burst n).2.findSome? Outcome.halt? = none ∨
      ∃ a < n, ∃ halt, (∀ k < a, (m.steps k).step.2.ok = true) ∧
        (m.steps a).step.2.halt? = some halt ∧ (m.burst n).1 = (m.steps a).step.1 ∧
        (m.burst n).2.countP Outcome.ok = a ∧
        (m.burst n).2.findSome? Outcome.halt? = some halt := by
  induction n generalizing m with
  | zero => exact .inl ⟨fun k hk => absurd hk (Nat.not_lt_zero k), rfl, rfl, rfl⟩
  | succ n ih =>
    rw [burst_succ]
    cases hh : m.step.2.halt? with
    | some halt =>
      have hok : m.step.2.ok = false := by rw [Outcome.ok, hh]; rfl
      refine .inr ⟨0, Nat.succ_pos n, halt, fun k hk => absurd hk (Nat.not_lt_zero k), hh, ?_⟩
      rw [if_neg (by rw [hok]; exact Bool.false_ne_true)]
      simp [hok, hh]
    | none =>
      have hok : m.step.2.ok = true := by rw [Outcome.ok, hh]; rfl
      rw [if_pos hok]
      obtain ⟨hrest, hm, hcount, hfind⟩ | ⟨a, ha, halt, hrest, hhalt, hm, hcount, hfind⟩ :=
        ih m.step.1
      · refine .inl ⟨ok_steps_succ hok hrest, hm, ?_, ?_⟩
        · rw [List.countP_cons_of_pos hok, hcount]
        · rw [List.findSome?_cons_of_isNone (by rw [hh]; rfl), hfind]
      · refine .inr ⟨a + 1, Nat.succ_lt_succ ha, halt, ok_steps_succ hok hrest, hhalt, hm, ?_, ?_⟩
        · rw [List.countP_cons_of_pos hok, hcount]
        · rw [List.findSome?_cons_of_isNone (by rw [hh]; rfl), hfind]

/-- An instruction that fails leaves the timers as they were. -/
theorem timers_execute_of_error {fault : Fault} (hx : m.execute op f = (m', .error fault)) :
    m'.timers = m.timers := by
  cases hw : op.writes .timers with
  | false =>
    have same := (sameOutside_execute m op f).timers hw
    rwa [hx] at same
  | true =>
    cases op
    case setDelay | setSound => cases hx
    all_goals cases hw

/-- A step that fails leaves the timers as they were. -/
theorem timers_step_of_not_ok (h : m.step.2.ok = false) : m.step.1.timers = m.timers :=
  step_inherits_of_not_ok h rfl (fun _ _ _ _ => timers_execute_of_error) (fun _ _ _ h => h)

/-- **A step leaves the delay timer alone** unless it sets it. -/
theorem delay_step (h : m.step.2.op? ≠ some .setDelay) :
    m.step.1.timers.delay = m.timers.delay := by
  cases ho : m.step.2 with
  | ran pc word =>
    obtain ⟨-, -, op, hop, effects⟩ := effects_of_ran ho
    refine effects.delay fun hset => h ?_
    rw [ho, Outcome.op?, hop, hset]
  | stopped _ _ => rw [timers_step_of_not_ok (by rw [ho]; rfl)]
  | halted _ => rw [timers_step_of_not_ok (by rw [ho]; rfl)]

/-- **A step counts if it succeeds.** -/
theorem cycles_step (m : Machine) :
    m.step.1.cycles = m.cycles + if m.step.2.ok then 1 else 0 := by
  refine m.step_cases ?halted ?noWord ?noOpcode ?faulted ?ran
  case halted => exact fun _ _ => rfl
  case noWord => exact fun _ _ _ => rfl
  case noOpcode => exact fun _ _ _ _ _ => rfl
  case faulted =>
    intro word op m' fault _ _ _ _ hx
    have same := (sameOutside_execute m op (Fields.ofWord word)).cycles
    rw [hx] at same
    exact same
  case ran =>
    intro word op m' next _ _ _ _ hx
    have same := (sameOutside_execute m op (Fields.ofWord word)).cycles
    rw [hx] at same
    exact congrArg (· + 1) same

/-- **A run counts the steps that succeed.** -/
theorem cycles_run (m : Machine) (moves : List Move) :
    (m.run moves).cycles = m.cycles + (m.outcomes moves).countP Outcome.ok := by
  induction moves generalizing m with
  | nil => rfl
  | cons a moves ih =>
    rw [run_cons, ih, outcomes, List.countP_append]
    cases a with
    | step =>
      rw [move, cycles_step, Nat.add_assoc, outcome?, Option.toList_some, List.countP_singleton]
    | latch keypad => exact congrArg (m.cycles + ·) (Nat.zero_add _).symm
    | tick => exact congrArg (m.cycles + ·) (Nat.zero_add _).symm

/-- **A row of requests counts what its answers tell of.** -/
theorem cycles_serveAll (m : Machine) (requests : List Request) :
    (m.serveAll requests).cycles
      = m.cycles + ((m.answers requests).map Answer.executed).sum := by
  rw [serveAll_eq_run, cycles_run, ← outcomes_answers, List.countP_flatMap]
  rfl

/-- **A delay timer that is left alone counts down the ticks** and rests at zero. -/
theorem delay_run (h₀ : 0 ≤ m.timers.delay)
    (hset : ∀ o ∈ m.outcomes moves, o.op? ≠ some .setDelay) :
    (m.run moves).timers.delay = max 0 (m.timers.delay - moves.count .tick) := by
  induction moves generalizing m with
  | nil =>
    show m.timers.delay = max 0 (m.timers.delay - 0)
    omega
  | cons a moves ih =>
    cases a with
    | step =>
      obtain ⟨hfirst, hrest⟩ := List.forall_mem_cons.1 hset
      have hd : (m.move .step).timers.delay = m.timers.delay := delay_step hfirst
      rw [run_cons, ih (hd ▸ h₀) hrest, hd, List.count_cons_of_ne (by decide)]
    | latch keypad =>
      have hd : (m.move (.latch keypad)).timers.delay = m.timers.delay := rfl
      rw [run_cons, ih (hd ▸ h₀) hset, hd, List.count_cons_of_ne (by rintro ⟨⟩)]
    | tick =>
      have hd : (m.move .tick).timers.delay = max 0 (m.timers.delay - 1) :=
        Timers.countDown_of_nonneg h₀
      rw [run_cons, ih (by omega) hset, hd, List.count_cons_self]
      omega

/-- How a frame went: `m` is the machine with its keys latched, `m'` what the frame leaves
of it, and `r` the report. The frame executed steps up to a limit, and it is whole if it
reached that; then both timers ticked once. Else the next step failed, and nothing
ticked. -/
structure Accounted (limit : Nat) (m m' : Machine) (r : FrameReport) : Prop where
  le : r.executed ≤ limit
  whole_iff : r.halt? = none ↔ r.executed = limit
  succeeds : ∀ k < r.executed, (m.steps k).step.2.ok = true
  whole : r.halt? = none → m' = (m.steps r.executed).tick
  cut : ∀ halt, r.halt? = some halt →
    (m.steps r.executed).step.2.halt? = some halt ∧ m' = (m.steps r.executed).step.1
  timers : m'.timers = if r.halt? = none then (m.steps r.executed).timers.tick
    else (m.steps r.executed).timers
  cycles : m'.cycles = m.cycles + r.executed

/-- **A frame whose keys are latched is accounted for.** -/
theorem accounted_runLatched (m : Machine) :
    Accounted m.config.instructionsPerFrame m m.runLatched.1 m.runLatched.2 := by
  have hcycles : m.runLatched.1.cycles = m.cycles + m.runLatched.2.executed := by
    obtain ⟨hrun, houtcomes⟩ := m.runLatched_eq_run
    rw [hrun, cycles_run, FrameReport.executed, houtcomes]
  have hfst := m.runLatched_fst
  have hsnd := m.runLatched_snd
  obtain ⟨hall, hm, hcount, hfind⟩ | ⟨a, ha, halt, hall, hhalt, hm, hcount, hfind⟩ :=
    m.burst_cases m.config.instructionsPerFrame
  · have hnone : m.runLatched.2.halt? = none := by rw [hsnd, hfind]
    have hexecuted : m.runLatched.2.executed = m.config.instructionsPerFrame := by
      rw [hsnd, FrameReport.executed, hcount]
    rw [FrameReport.ok, hnone, Option.isNone_none, if_pos rfl, hm, ← hexecuted] at hfst
    exact {
      le := Nat.le_of_eq hexecuted
      whole_iff := iff_of_true hnone hexecuted
      succeeds := fun k hk => hall k (hexecuted ▸ hk)
      whole := fun _ => hfst
      cut := fun halt hsome => by cases hnone.symm.trans hsome
      timers := by
        rw [if_pos hnone, hfst]
        rfl
      cycles := hcycles }
  · have hsome : m.runLatched.2.halt? = some halt := by rw [hsnd, hfind]
    have hexecuted : m.runLatched.2.executed = a := by rw [hsnd, FrameReport.executed, hcount]
    rw [FrameReport.ok, hsome, if_neg (by rintro ⟨⟩), hm, ← hexecuted] at hfst
    subst hexecuted
    exact {
      le := Nat.le_of_lt ha
      whole_iff := iff_of_false (by rw [hsome]; rintro ⟨⟩) (Nat.ne_of_lt ha)
      succeeds := hall
      whole := fun hnone => by cases hsome.symm.trans hnone
      cut := by
        intro halt' hsome'
        obtain rfl := Option.some.inj (hsome.symm.trans hsome')
        exact ⟨hhalt, hfst⟩
      timers := by
        rw [if_neg (by rw [hsome]; rintro ⟨⟩), hfst]
        exact timers_step_of_not_ok (by rw [Outcome.ok, hhalt]; rfl)
      cycles := hcycles }

/-- The machine shows the keys of a host's snapshot, or the old ones if there is none. -/
def Keyed (m p : Machine) (snapshot : Value) : Prop :=
  snapshot = .null ∧ p = m ∨
    ∃ keypad, Keypad.latchHost snapshot = .ok keypad ∧ p = { m with keypad := keypad }

theorem Keyed.config {p : Machine} {snapshot : Value} (h : Keyed m p snapshot) :
    p.config = m.config := by
  obtain ⟨-, rfl⟩ | ⟨keypad, -, rfl⟩ := h <;> rfl

theorem Keyed.timers {p : Machine} {snapshot : Value} (h : Keyed m p snapshot) :
    p.timers = m.timers := by
  obtain ⟨-, rfl⟩ | ⟨keypad, -, rfl⟩ := h <;> rfl

/-- **A frame that a host asks for** is refused and does nothing, or its keys are latched
and it runs. -/
theorem frame_cases (m : Machine) (snapshot : Value) :
    (∃ e, m.runFrameHost snapshot = .error e ∧ m.moves (.frame snapshot) = []) ∨
      ∃ p, Keyed m p snapshot ∧ m.runFrameHost snapshot = .ok p.runLatched ∧
        (m.moves (.frame snapshot)).count .tick = if p.runLatched.2.ok then 1 else 0 := by
  have hticks (p : Machine) :
      p.frameMoves.count .tick = if p.runLatched.2.ok then 1 else 0 := by
    rw [frameMoves, List.count_append, List.count_replicate]
    cases p.runLatched.2.ok <;> rfl
  by_cases hs : snapshot = .null
  · subst hs
    exact .inr ⟨m, .inl ⟨rfl, rfl⟩, rfl, hticks m⟩
  · rw [runFrameHost_eq m hs, m.moves_frame hs]
    cases hk : Keypad.latchHost snapshot with
    | error e => exact .inl ⟨e, rfl, rfl⟩
    | ok keypad =>
      refine .inr ⟨_, .inr ⟨keypad, hk, rfl⟩, rfl, ?_⟩
      dsimp only
      rw [List.count_cons_of_ne (by rintro ⟨⟩), hticks]

/-- A frame with a snapshot of sixteen entries, or without one, runs. -/
theorem exists_keyed (m : Machine) {snapshot : Value} (h : (Request.frame snapshot).Runs) :
    ∃ p, Keyed m p snapshot ∧ m.runFrameHost snapshot = .ok p.runLatched := by
  obtain rfl | ⟨entries, he, hl⟩ := h
  · exact ⟨m, .inl ⟨rfl, rfl⟩, rfl⟩
  · obtain ⟨keypad, hk⟩ := Keypad.exists_latchHost he hl
    have hs : snapshot ≠ .null := by
      rintro rfl
      cases he
    refine ⟨_, .inr ⟨keypad, hk, rfl⟩, ?_⟩
    rw [runFrameHost_eq m hs, hk]
    rfl

/-- **The ticks of a row of frames** are its whole frames. -/
theorem count_tick_frames (m : Machine) (snapshots : List Value) :
    (m.allMoves (snapshots.map .frame)).count .tick
      = (m.answers (snapshots.map .frame)).countP Answer.whole := by
  induction snapshots generalizing m with
  | nil => rfl
  | cons snapshot snapshots ih =>
    rw [List.map_cons, allMoves, answers, List.count_append, ih, List.countP_cons, Nat.add_comm]
    congr 1
    obtain ⟨e, hr, hmoves⟩ | ⟨p, -, hr, hticks⟩ := m.frame_cases snapshot
    · rw [hmoves, answer, hr]
      rfl
    · rw [hticks, answer, hr]
      rfl

/-- **The delay timer after a row of frames**, if none of their steps sets it. -/
theorem delay_frames (h₀ : 0 ≤ m.timers.delay) {snapshots : List Value}
    (hset : ∀ o ∈ m.told (snapshots.map .frame), o.op? ≠ some .setDelay) :
    (m.serveAll (snapshots.map .frame)).timers.delay
      = max 0 (m.timers.delay - (m.answers (snapshots.map .frame)).countP Answer.whole) := by
  rw [told, outcomes_answers] at hset
  rw [serveAll_eq_run, delay_run h₀ hset, count_tick_frames]

theorem delay_steps (hset : ∀ k < n, (m.steps k).step.2.op? ≠ some .setDelay) :
    (m.steps n).timers.delay = m.timers.delay := by
  induction n with
  | zero => rfl
  | succ n ih =>
    rw [← step_steps, delay_step (hset n (Nat.lt_succ_self n))]
    exact ih fun k hk => hset k (Nat.lt_succ_of_lt hk)

/-- What a step leaves that reads the delay timer. -/
theorem reg_of_readDelay (ho : m.step.2 = .ran pc word)
    (hop : Opcode.ofWord? word = some .readDelay) :
    m.step.1.reg (Fields.ofWord word).x = UInt8.ofInt m.timers.delay := by
  obtain ⟨m', next, hx, hs⟩ := execute_of_ran_op ho hop
  obtain ⟨rfl, -⟩ := Prod.mk.inj hx
  rw [hs]
  exact reg_setReg_self m _ _

/-- The steps among the first `n` that read the delay timer, before any of them sets it,
read this value. -/
def ReadsDelay (m : Machine) (n : Nat) (value : Int) : Prop :=
  ∀ k < n, (∀ j < k, (m.steps j).step.2.op? ≠ some .setDelay) →
    ∀ pc word, (m.steps k).step.2 = .ran pc word → Opcode.ofWord? word = some .readDelay →
      (((m.steps (k + 1)).reg (Fields.ofWord word).x).toNat : Int) = value

theorem readsDelay (h : IsByte m.timers.delay) (n : Nat) : ReadsDelay m n m.timers.delay := by
  intro k _ hset pc word ho hop
  rw [← step_steps, reg_of_readDelay ho hop, delay_steps hset]
  exact Wide.toNat_ofInt h.1 h.2

/-- **Frames add up.** After any row of frames, the count of steps has grown by the steps
that they executed, and the delay timer, if none of these set it, has lost one for each
whole frame, down to zero. The next frame, with a snapshot of sixteen entries or without
one, executes steps up to the limit of the configuration, is whole exactly if it executes
all of them, and ticks both timers exactly then; and a step of it that reads the delay
timer reads what the frames before have left of it. -/
theorem frames_add_up (h : Reachable c random m) (snapshots : List Value) :
    (m.serveAll (snapshots.map .frame)).cycles
        = m.cycles + ((m.answers (snapshots.map .frame)).map Answer.executed).sum ∧
      ((∀ o ∈ m.told (snapshots.map .frame), o.op? ≠ some .setDelay) →
        (m.serveAll (snapshots.map .frame)).timers.delay
          = max 0 (m.timers.delay - (m.answers (snapshots.map .frame)).countP Answer.whole)) ∧
      ∀ snapshot, (Request.frame snapshot).Runs →
        ∃ p m' r, Keyed (m.serveAll (snapshots.map .frame)) p snapshot ∧
          (m.serveAll (snapshots.map .frame)).runFrameHost snapshot = .ok (m', r) ∧
          Accounted c.instructionsPerFrame p m' r ∧
          ((∀ o ∈ m.told (snapshots.map .frame), o.op? ≠ some .setDelay) →
            p.ReadsDelay r.executed
              (max 0 (m.timers.delay
                - (m.answers (snapshots.map .frame)).countP Answer.whole))) := by
  have hsound := (Sound.kept c).serveAll (snapshots.map .frame) (Sound.of_reachable h)
  have h₀ : 0 ≤ m.timers.delay := (Sound.of_reachable h).delay.1
  refine ⟨m.cycles_serveAll _, delay_frames h₀, fun snapshot hruns => ?_⟩
  obtain ⟨p, hkeyed, hr⟩ := exists_keyed (m.serveAll (snapshots.map .frame)) hruns
  refine ⟨p, _, _, hkeyed, hr, ?_, fun hset => ?_⟩
  · rw [← hsound.config, ← hkeyed.config]
    exact p.accounted_runLatched
  · rw [← delay_frames h₀ hset, ← hkeyed.timers]
    exact readsDelay (hkeyed.timers ▸ hsound.delay) _

/-- A machine that has set its delay timer to five. It goes on to read the timer, waits
for a key, reads the timer again and returns without a call. -/
def counting : Machine :=
  (((new small .zeros).act (.load (.bytes
    [0x60, 0x05, 0xF0, 0x15, 0xF1, 0x07, 0xF2, 0x0A, 0xF3, 0x07, 0x00, 0xEE]))).act .step).act .step

theorem reachable_counting : Reachable small .zeros counting := .act _ (.act _ (.act _ .new))

/-- A snapshot of a host with all keys up. -/
def allUp : Value := .list (.replicate 16 (.int 0))

/-- Frames in which the key goes down and comes up, and one behind the fault. -/
def countingFrames : List Value := [.null, lastKeyDown, allUp, .null]

theorem frames_add_up_counting :
    counting.timers.delay = 5 ∧
      (counting.answers (countingFrames.map .frame)).map Answer.executed = [4, 4, 2, 0] ∧
      (counting.serveAll (countingFrames.map .frame)).cycles = 12 ∧
      (counting.serveAll (countingFrames.map .frame)).timers.delay = 3 ∧
      ∃ p m' r, Keyed (counting.serveAll ([.null, lastKeyDown].map .frame)) p allUp ∧
        (counting.serveAll ([.null, lastKeyDown].map .frame)).runFrameHost allUp = .ok (m', r) ∧
        Accounted 4 p m' r ∧ p.ReadsDelay r.executed 3 := by
  have hrun : counting.timers.delay = 5 ∧ counting.cycles = 2 ∧
      (∀ o ∈ counting.told (countingFrames.map .frame), o.op? ≠ some .setDelay) ∧
      (∀ o ∈ counting.told ([.null, lastKeyDown].map .frame), o.op? ≠ some .setDelay) ∧
      (counting.answers (countingFrames.map .frame)).map Answer.executed = [4, 4, 2, 0] ∧
      (counting.answers (countingFrames.map .frame)).countP Answer.whole = 2 ∧
      (counting.answers ([.null, lastKeyDown].map .frame)).countP Answer.whole = 2 := by
    decide +kernel
  obtain ⟨hdelay, hcycles, hset, hset₂, hexecuted, hwhole, hwhole₂⟩ := hrun
  have hruns : (Request.frame allUp).Runs := .inr ⟨_, rfl, rfl⟩
  obtain ⟨hcount, hleft, -⟩ := frames_add_up reachable_counting countingFrames
  obtain ⟨-, -, hframe⟩ := frames_add_up reachable_counting [.null, lastKeyDown]
  obtain ⟨p, m', r, hkeyed, hr, haccounted, hreads⟩ := hframe allUp hruns
  have hleft := hleft hset
  have hreads := hreads hset₂
  rw [hdelay, hwhole] at hleft
  rw [hdelay, hwhole₂] at hreads
  rw [hcycles, hexecuted] at hcount
  exact ⟨hdelay, hexecuted, hcount, hleft, p, m', r, hkeyed, hr, haccounted, hreads⟩

end Machine
end ChipEight
