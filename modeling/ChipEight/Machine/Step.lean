/-
# Steps and frames

A step fetches a word, finds its operation and executes it. A fault is an
outcome, not an exception: it is kept as the machine's halt, and every later step
reports that same halt. A frame latches a snapshot of the keypad, runs a burst of
steps and ticks the timers; a fault ends it before the tick.
-/

import ChipEight.Machine.Execute

namespace ChipEight

/-- How a step ended. -/
inductive Outcome
  /-- The word at `pc` was executed. -/
  | ran (pc word : Nat)
  /-- The machine stopped; there is no word if the fetch failed. -/
  | stopped (word? : Option Nat) (halt : Halt)
  /-- The machine had stopped before. -/
  | halted (halt : Halt)
  deriving DecidableEq, Repr

namespace Outcome

/-- The address of the instruction. -/
def pc : Outcome → Nat
  | ran pc _ => pc
  | stopped _ halt => halt.pc
  | halted halt => halt.pc

/-- The word fetched. -/
def word? : Outcome → Option Nat
  | ran _ word => some word
  | stopped word? _ => word?
  | halted _ => none

/-- The fault in the way. -/
def halt? : Outcome → Option Halt
  | ran _ _ => none
  | stopped _ halt => some halt
  | halted halt => some halt

/-- An instruction was executed. -/
def ok (o : Outcome) : Bool := o.halt?.isNone

end Outcome

/-- What a frame did. -/
structure FrameReport where
  /-- The outcome of each step, in order. -/
  outcomes : List Outcome
  /-- The fault that ended it. -/
  halt? : Option Halt
  deriving DecidableEq, Repr

/-- Instructions executed. -/
def FrameReport.executed (r : FrameReport) : Nat := r.outcomes.countP Outcome.ok

/-- No fault ended the frame. -/
def FrameReport.ok (r : FrameReport) : Bool := r.halt?.isNone

namespace Machine

/-- Stops the machine at its program counter. -/
def stop (m : Machine) (word? : Option Nat) (fault : Fault) : Machine × Outcome :=
  let halt := ⟨fault, m.pc⟩
  ({ m with halt := some halt }, .stopped word? halt)

/-- Fetches, decodes and executes one instruction. -/
def step (m : Machine) : Machine × Outcome :=
  match m.halt with
  | some halt => (m, .halted halt)
  | none =>
    match m.memory.readWord m.pc with
    | .error e => m.stop none (.outOfBounds e)
    | .ok word =>
      match Opcode.ofWord? word with
      | none => m.stop (some word) (.invalidInstruction word)
      | some op =>
        let pc := m.pc
        match m.execute op (Fields.ofWord word) with
        | (m, .error fault) => m.stop (some word) fault
        | (m, .ok next) => ({ m with pc := next, cycles := m.cycles + 1 }, .ran pc word)

/-- **How a step can go.** What holds in each of the five cases holds of the step. -/
@[elab_as_elim] theorem step_cases {motive : Machine × Outcome → Prop} (m : Machine)
    (halted : ∀ halt, m.halt = some halt → motive (m, .halted halt))
    (noWord : ∀ e, m.halt = none → Memory.refusal? m.memory.size m.pc 2 = some e →
      motive (m.stop none (.outOfBounds e)))
    (noOpcode : ∀ word, m.halt = none → m.pc + 2 ≤ m.memory.size → word = m.memory.word m.pc →
      Opcode.ofWord? word = none → motive (m.stop (some word) (.invalidInstruction word)))
    (faulted : ∀ word op m' fault, m.halt = none → m.pc + 2 ≤ m.memory.size →
      word = m.memory.word m.pc → Opcode.ofWord? word = some op →
      m.execute op (Fields.ofWord word) = (m', .error fault) →
      motive (m'.stop (some word) fault))
    (ran : ∀ word op m' next, m.halt = none → m.pc + 2 ≤ m.memory.size →
      word = m.memory.word m.pc → Opcode.ofWord? word = some op →
      m.execute op (Fields.ofWord word) = (m', .ok next) →
      motive ({ m' with pc := next, cycles := m'.cycles + 1 }, .ran m.pc word)) :
    motive m.step := by
  unfold step
  cases hm : m.halt with
  | some halt => exact halted halt hm
  | none =>
    rw [Memory.readWord_eq]
    cases hr : Memory.refusal? m.memory.size m.pc 2 with
    | some e => exact noWord e hm hr
    | none =>
      have hpc := Memory.refusal?_eq_none.1 hr
      simp only [Option.elim]
      cases ho : Opcode.ofWord? (m.memory.word m.pc) with
      | none => exact noOpcode _ hm hpc rfl ho
      | some op =>
        simp only
        rcases hx : m.execute op (Fields.ofWord (m.memory.word m.pc)) with ⟨m', fault | next⟩
        · exact faulted _ op m' fault hm hpc rfl ho hx
        · exact ran _ op m' next hm hpc rfl ho hx

/-- **A step inherits what its instruction keeps**, if a stop and a move of the program
counter keep it too. -/
@[elab_as_elim] theorem step_inherits {motive : Machine → Prop} {m : Machine} (self : motive m)
    (execute : ∀ op f, motive (m.execute op f).1)
    (stop : ∀ m' word? fault, motive m' → motive (m'.stop word? fault).1)
    (next : ∀ m' pc cycles, motive m' → motive { m' with pc := pc, cycles := cycles }) :
    motive m.step.1 := by
  refine m.step_cases ?halted ?noWord ?noOpcode ?faulted ?ran
  case halted => exact fun _ _ => self
  case noWord => exact fun _ _ _ => stop m _ _ self
  case noOpcode => exact fun _ _ _ _ _ => stop m _ _ self
  case faulted =>
    intro word op m' fault _ _ _ _ hx
    have h := execute op (Fields.ofWord word)
    rw [hx] at h
    exact stop m' _ _ h
  case ran =>
    intro word op m' pc _ _ _ _ hx
    have h := execute op (Fields.ofWord word)
    rw [hx] at h
    exact next m' _ _ h

/-- **A step that fails inherits what a faulty instruction keeps**, if a stop keeps it too. -/
@[elab_as_elim] theorem step_inherits_of_not_ok {motive : Machine → Prop} {m : Machine}
    (h : m.step.2.ok = false) (self : motive m)
    (execute : ∀ op f m' fault, m.execute op f = (m', .error fault) → motive m')
    (stop : ∀ m' word? fault, motive m' → motive (m'.stop word? fault).1) : motive m.step.1 := by
  revert h
  refine m.step_cases ?halted ?noWord ?noOpcode ?faulted ?ran
  case halted => exact fun _ _ _ => self
  case noWord => exact fun _ _ _ _ => stop m _ _ self
  case noOpcode => exact fun _ _ _ _ _ _ => stop m _ _ self
  case faulted => exact fun _ _ m' _ _ _ _ _ hx _ => stop m' _ _ (execute _ _ _ _ hx)
  case ran => exact fun _ _ _ _ _ _ _ _ _ h => by cases h

/-- **A step that ran an instruction** executed the operation of the word at the program
counter. -/
theorem execute_of_ran {m : Machine} {pc word : Nat} (h : m.step.2 = .ran pc word) :
    pc = m.pc ∧ word = m.memory.word m.pc ∧
      ∃ op m' next, Opcode.ofWord? word = some op ∧
        m.execute op (Fields.ofWord word) = (m', .ok next) ∧
        m.step.1 = { m' with pc := next, cycles := m'.cycles + 1 } := by
  revert h
  refine m.step_cases ?halted ?noWord ?noOpcode ?faulted ?ran
  case halted => exact fun _ _ h => by cases h
  case noWord => exact fun _ _ _ h => by cases h
  case noOpcode => exact fun _ _ _ _ _ h => by cases h
  case faulted => exact fun _ _ _ _ _ _ _ _ _ h => by cases h
  case ran =>
    rintro _ op m' next _ _ rfl ho hx h
    obtain ⟨rfl, rfl⟩ := Outcome.ran.inj h
    exact ⟨rfl, rfl, op, m', next, ho, hx, rfl⟩

/-- A step that ran a known operation. -/
theorem execute_of_ran_op {m : Machine} {pc word : Nat} {op : Opcode} (h : m.step.2 = .ran pc word)
    (ho : Opcode.ofWord? word = some op) :
    ∃ m' next, m.execute op (Fields.ofWord word) = (m', .ok next) ∧
      m.step.1 = { m' with pc := next, cycles := m'.cycles + 1 } := by
  obtain ⟨-, -, op', m', next, ho', hx, hs⟩ := execute_of_ran h
  obtain rfl : op = op' := Option.some.inj (ho.symm.trans ho')
  exact ⟨m', next, hx, hs⟩

/-- A machine that has stopped steps to itself. -/
theorem step_of_halt {m : Machine} {halt : Halt} (hm : m.halt = some halt) :
    m.step = (m, .halted halt) := by
  rw [step, hm]

/-- A step whose instruction succeeds. -/
theorem step_of_execute {m m' : Machine} {word next : Nat} {op : Opcode} (hm : m.halt = none)
    (hpc : m.pc + 2 ≤ m.memory.size) (hw : m.memory.word m.pc = word)
    (ho : Opcode.ofWord? word = some op)
    (hx : m.execute op (Fields.ofWord word) = (m', .ok next)) :
    m.step = ({ m' with pc := next, cycles := m'.cycles + 1 }, .ran m.pc word) := by
  unfold step
  simp only [hm, Memory.readWord_eq, Memory.refusal?_eq_none.2 hpc, Option.elim, hw, ho, hx]

/-- Up to `n` steps, none after one that executes nothing; the outcomes gathered
so far come newest first. -/
def burstOnto (outcomes : List Outcome) (m : Machine) : Nat → Machine × List Outcome
  | 0 => (m, outcomes)
  | n + 1 =>
    match m.step with
    | (m, outcome) =>
      if outcome.ok then burstOnto (outcome :: outcomes) m n else (m, outcome :: outcomes)

/-- Up to `n` steps, none after one that executes nothing, and their outcomes. -/
def burst (m : Machine) (n : Nat) : Machine × List Outcome :=
  let (m, outcomes) := m.burstOnto [] n
  (m, outcomes.reverse)

/-- The burst and the tick of a frame. -/
def runLatched (m : Machine) : Machine × FrameReport :=
  let (m, outcomes) := m.burst m.config.instructionsPerFrame
  match outcomes.findSome? Outcome.halt? with
  | some halt => (m, ⟨outcomes, some halt⟩)
  | none => (m.tick, ⟨outcomes, none⟩)

/-- The machine with a snapshot latched. -/
def latch (m : Machine) (snapshot : List Bool) : Except Keypad.BadSnapshot Machine := do
  return { m with keypad := ← Keypad.latch snapshot }

/-- One frame; without a snapshot the keys stay as they are. -/
def runFrame (m : Machine) (snapshot? : Option (List Bool)) :
    Except Keypad.BadSnapshot (Machine × FrameReport) :=
  match snapshot? with
  | none => .ok m.runLatched
  | some snapshot => (m.latch snapshot).map runLatched

theorem burstOnto_eq (m : Machine) (n : Nat) (outcomes : List Outcome) :
    m.burstOnto outcomes n = ((m.burst n).1, (m.burst n).2.reverse ++ outcomes) := by
  induction n generalizing m outcomes with
  | zero => simp [burstOnto, burst]
  | succ n ih =>
    unfold burst burstOnto
    split
    next m' outcome _ =>
      split
      · rw [ih, ih m' [outcome]]; simp
      · simp

@[simp] theorem burst_zero (m : Machine) : m.burst 0 = (m, []) := rfl

/-- A burst is a step and, if that executed something, the rest of the burst. -/
theorem burst_succ (m : Machine) (n : Nat) :
    m.burst (n + 1) = if m.step.2.ok then
      ((m.step.1.burst n).1, m.step.2 :: (m.step.1.burst n).2) else (m.step.1, [m.step.2]) := by
  rcases h : m.step with ⟨m', outcome⟩
  simp only [burst, burstOnto, h]
  split
  · rw [burstOnto_eq]; simp [burst]
  · simp

theorem runLatched_snd (m : Machine) :
    m.runLatched.2 = ⟨(m.burst m.config.instructionsPerFrame).2,
      (m.burst m.config.instructionsPerFrame).2.findSome? Outcome.halt?⟩ := by
  rw [runLatched]
  rcases m.burst m.config.instructionsPerFrame with ⟨m', outcomes⟩
  simp only
  split
  next h => rw [h]
  next h => rw [h]

theorem runLatched_fst (m : Machine) :
    m.runLatched.1 = if m.runLatched.2.ok then (m.burst m.config.instructionsPerFrame).1.tick
      else (m.burst m.config.instructionsPerFrame).1 := by
  rw [runLatched]
  rcases m.burst m.config.instructionsPerFrame with ⟨m', outcomes⟩
  simp only
  split <;> rfl

end Machine
end ChipEight
