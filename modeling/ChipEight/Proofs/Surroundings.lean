/-
# What surrounds a program

How a host cuts a run into frames, which keys it latches and when the timers tick is
seen by four operations alone (`Opcode.heeds`): the two skips on a key, the wait for one
and the one that reads the delay timer. Every other operation does the same in any
surroundings (`Machine.execute_amid`), also those that set a timer.

Up to the first step that heeds them, then, a run does what its steps by themselves do
(`Machine.Inside.run`). Two runs of one program that are cut into frames differently,
with other keys, agree after the same number of instructions in all but what surrounds
the program, and so does what happens next (`Machine.surroundings_unseen`).
-/

import ChipEight.Proofs.Reloading

namespace ChipEight

/-- The operation looks at the keypad or at the delay timer. -/
def Opcode.heeds (op : Opcode) : Bool :=
  op ∈ [.skipPressed, .skipReleased, .readDelay, .waitKey]

/-- The step executed an instruction that looks at the keypad or at the delay timer. -/
def Outcome.heeds : Outcome → Bool
  | .ran _ word => (Opcode.ofWord? word).any Opcode.heeds
  | _ => false

namespace Machine

/-- The machine in other surroundings. -/
def amid (m : Machine) (config : Config) (timers : Timers) (keypad : Keypad) : Machine :=
  { m with config := config, timers := timers, keypad := keypad }

/-- The machines differ but in their surroundings and in their sources of random bytes,
which give the same. -/
structure Inside (m m' : Machine) : Prop where
  twins : Twins (m.amid m'.config m'.timers m'.keypad) m'

variable {m m' n n' : Machine} {c : Config} {op : Opcode} {f : Fields} {config : Config}
  {timers : Timers} {keypad : Keypad} {program : List UInt8}

/-- **An instruction that does not heed its surroundings** does the same in others. -/
theorem execute_amid (m : Machine) (config : Config) (timers : Timers) (keypad : Keypad)
    (f : Fields) (h : op.heeds = false) :
    ∃ timers', (m.amid config timers keypad).execute op f
      = ((m.execute op f).1.amid config timers' keypad, (m.execute op f).2) := by
  cases op
  case skipPressed | skipReleased | readDelay | waitKey => cases h
  case draw =>
    dsimp only [execute, drawSprite, setReg, reg, amid]
    split
    · exact ⟨timers, rfl⟩
    · split <;> exact ⟨timers, rfl⟩
  case ret | call | decimal | store | load =>
    dsimp only [execute, firstRegs, reg, amid]
    split <;> exact ⟨timers, rfl⟩
  all_goals exact ⟨_, rfl⟩

/-- An instruction that heeds its surroundings does not fail. -/
theorem exists_ok_of_heeds (m : Machine) (f : Fields) (h : op.heeds = true) :
    ∃ m' next, m.execute op f = (m', .ok next) := by
  cases op
  case skipPressed | skipReleased | readDelay => exact ⟨_, _, rfl⟩
  case waitKey =>
    simp only [execute]
    split <;> exact ⟨_, _, rfl⟩
  all_goals cases h

namespace Inside

theorem refl (m : Machine) : Inside m m := ⟨rfl, fun _ => rfl⟩

/-- Machines that are the same inside as a third are so among themselves. -/
theorem common (h : Inside m n) (h' : Inside m n') : Inside n n' where
  twins.same := by
    rw [h'.twins.same, h.twins.same]
    rfl
  twins.bytes := fun i => (h.twins.bytes i).symm.trans (h'.twins.bytes i)

theorem pc (h : Inside m m') : m'.pc = m.pc := h.twins.pc

theorem halt (h : Inside m m') : m'.halt = m.halt := h.twins.halt

theorem memory (h : Inside m m') : m'.memory = m.memory := h.twins.memory

theorem stepwise : Stepwise Inside where
  pc := Inside.pc
  halt := Inside.halt
  stop := fun halt h => ⟨Twins.stepwise.stop halt h.twins⟩
  next := fun pc h => ⟨Twins.stepwise.next pc h.twins⟩

theorem latch (h : Inside m m') (keypad : Keypad) : Inside m { m' with keypad := keypad } :=
  ⟨h.twins.latch keypad⟩

theorem tick (h : Inside m m') : Inside m m'.tick := ⟨h.twins.tick⟩

theorem execute (h : Inside m m') (hop : op.heeds = false) :
    Inside (m.execute op f).1 (m'.execute op f).1 ∧
      (m'.execute op f).2 = (m.execute op f).2 := by
  obtain ⟨timers', hx⟩ := m.execute_amid m'.config m'.timers m'.keypad f hop
  obtain ⟨ht, he⟩ := h.twins.execute op f
  rw [hx] at ht he
  have same := sameOutside_execute m' op f
  have htimers : (m'.execute op f).1.timers = timers' := by
    rw [ht.same]
    rfl
  refine ⟨⟨?_⟩, he⟩
  rw [htimers, same.config, same.keypad]
  exact ht

/-- **A step that does not heed its surroundings** leaves machines the same inside; and
any step has the same outcome. -/
theorem step (h : Inside m m') :
    m'.step.2 = m.step.2 ∧ (m.step.2.heeds = false → Inside m.step.1 m'.step.1) := by
  cases hm : m.halt with
  | some halt =>
    rw [step_of_halt hm, step_of_halt (h.halt.trans hm)]
    exact ⟨rfl, fun _ => h⟩
  | none =>
    by_cases hheeds : ∃ word op, m.memory.readWord m.pc = .ok word ∧
      Opcode.ofWord? word = some op ∧ op.heeds = true
    · obtain ⟨word, op, hw, ho, hop⟩ := hheeds
      obtain ⟨hfits, hword⟩ := Memory.readWord_eq_ok.1 hw
      obtain ⟨n, next, hx⟩ := m.exists_ok_of_heeds (Fields.ofWord word) hop
      obtain ⟨n', next', hx'⟩ := m'.exists_ok_of_heeds (Fields.ofWord word) hop
      have hstep := step_of_execute hm hfits hword ho hx
      have hstep' := step_of_execute (h.halt.trans hm) (by rwa [h.pc, h.memory])
        (by rwa [h.pc, h.memory]) ho hx'
      rw [hstep, hstep', h.pc]
      refine ⟨rfl, fun hran => ?_⟩
      rw [Outcome.heeds, ho, Option.any_some, hop] at hran
      cases hran
    · obtain ⟨hi, ho⟩ := stepwise.step h (by rw [h.memory]) fun word op hw ho =>
        h.execute (Bool.eq_false_iff.2 fun hop => hheeds ⟨word, op, hw, ho, hop⟩)
      exact ⟨ho, fun _ => hi⟩

/-- **A run that does not heed its surroundings** does what its steps by themselves
do. -/
theorem run {moves : List Move} (h : Inside m m')
    (hheedless : ∀ o ∈ m'.outcomes moves, o.heeds = false) :
    Inside (m.run (.replicate (moves.count .step) .step)) (m'.run moves) ∧
      m'.outcomes moves = m.outcomes (.replicate (moves.count .step) .step) := by
  induction moves generalizing m m' with
  | nil => exact ⟨h, rfl⟩
  | cons a moves ih =>
    cases a with
    | step =>
      obtain ⟨ho, hi⟩ := h.step
      obtain ⟨hfirst, hrest⟩ := List.forall_mem_cons.1 hheedless
      obtain ⟨hrun, hos⟩ := ih (hi (ho ▸ hfirst)) hrest
      rw [List.count_cons_self]
      refine ⟨hrun, ?_⟩
      show m'.step.2 :: m'.step.1.outcomes moves = m.step.2 :: m.step.1.outcomes _
      rw [ho, hos]
    | latch keypad => exact ih (h.latch keypad) hheedless
    | tick => exact ih h.tick hheedless

end Inside

theorem run_steps_of_halt {halt : Halt} (hm : m.halt = some halt) (k : Nat) :
    m.run (.replicate k .step) = m ∧
      m.outcomes (.replicate k .step) = .replicate k (.halted halt) := by
  induction k with
  | zero => exact ⟨rfl, rfl⟩
  | succ k ih =>
    have hstep := step_of_halt hm
    obtain ⟨hrun, ho⟩ := ih
    rw [List.replicate_succ, List.replicate_succ, run_cons, outcomes, move, outcome?, hstep]
    exact ⟨hrun, congrArg (Outcome.halted halt :: ·) ho⟩

/-- **How far steps come:** either all of them succeed and the machine goes on running, or
the machine is where the first one that fails leaves it. -/
theorem run_steps_cases (m : Machine) (k : Nat) {a : Nat}
    (ha : (m.outcomes (.replicate k .step)).countP Outcome.ok = a) :
    (m.run (.replicate k .step)).halt = none ∧ k = a ∨
      ∃ halt, (m.run (.replicate k .step)).halt = some halt ∧
        m.run (.replicate k .step) = m.run (.replicate (a + 1) .step) ∧
        (m.run (.replicate a .step)).step.2.halt? = some halt := by
  induction k generalizing m a with
  | zero =>
    obtain rfl : 0 = a := ha
    cases hm : m.halt with
    | none => exact .inl ⟨hm, rfl⟩
    | some halt =>
      obtain ⟨hrun, -⟩ := run_steps_of_halt hm 1
      refine .inr ⟨halt, hm, hrun.symm, ?_⟩
      show m.step.2.halt? = some halt
      rw [step_of_halt hm]
      rfl
  | succ k ih =>
    rw [List.replicate_succ, outcomes, outcome?, Option.toList_some, List.singleton_append,
      List.countP_cons] at ha
    rw [List.replicate_succ, run_cons]
    cases hh : m.step.2.halt? with
    | none =>
      have hok : m.step.2.ok = true := by rw [Outcome.ok, hh]; rfl
      rw [if_pos hok] at ha
      subst ha
      obtain ⟨hm, hk⟩ | hstopped := ih m.step.1 rfl
      · exact .inl ⟨hm, congrArg (· + 1) hk⟩
      · exact .inr hstopped
    | some halt =>
      have hok : m.step.2.ok ≠ true := by rw [Outcome.ok, hh]; exact Bool.false_ne_true
      obtain ⟨hm, -, -⟩ := halt_step hh
      obtain ⟨hrun, ho⟩ := run_steps_of_halt hm k
      have ha' : (m.step.1.outcomes (.replicate k .step)).countP Outcome.ok + 0 = a := by
        rw [← ha, if_neg hok]
        rfl
      rw [ho, List.countP_replicate, if_neg (by rintro ⟨⟩)] at ha'
      subst ha'
      refine .inr ⟨halt, ?_, hrun, hh⟩
      rw [move, hrun]
      exact hm

/-- **How far a run comes that does not heed its surroundings**, told by the number of its
steps that succeed. -/
theorem Inside.run_cases {moves : List Move} {a : Nat} (h : Inside m m')
    (hheedless : ∀ o ∈ m'.outcomes moves, o.heeds = false)
    (ha : (m'.outcomes moves).countP Outcome.ok = a) :
    ((m'.run moves).halt = none ∧ Inside (m.run (.replicate a .step)) (m'.run moves)) ∨
      ∃ halt, (m'.run moves).halt = some halt ∧
        Inside (m.run (.replicate (a + 1) .step)) (m'.run moves) ∧
        (m.run (.replicate a .step)).step.2.halt? = some halt := by
  obtain ⟨hi, ho⟩ := h.run hheedless
  rw [ho] at ha
  obtain ⟨hm, hk⟩ | ⟨halt, hm, hstop, hnext⟩ := run_steps_cases m _ ha
  · rw [hk] at hi hm
    exact .inl ⟨hi.halt.trans hm, hi⟩
  · refine .inr ⟨halt, hi.halt.trans hm, ?_, hnext⟩
    rw [← hstop]
    exact hi

/-- **What fails next** is the same for all such runs with as many successes. -/
theorem Inside.halt?_step_run {moves : List Move} {a : Nat} (h : Inside m m')
    (hheedless : ∀ o ∈ m'.outcomes moves, o.heeds = false)
    (ha : (m'.outcomes moves).countP Outcome.ok = a) :
    (m'.run moves).step.2.halt? = (m.run (.replicate a .step)).step.2.halt? := by
  obtain ⟨-, hi⟩ | ⟨halt, hm, -, hnext⟩ := h.run_cases hheedless ha
  · rw [hi.step.1]
  · rw [step_of_halt hm, hnext]
    rfl

/-- **Runs that do not heed their surroundings agree**, with as many successes, in what
happens next; and they lead to the same inside if both have stopped or neither. -/
theorem Inside.runs_agree {m₁ m₂ : Machine} {moves₁ moves₂ : List Move} (h₁ : Inside m m₁)
    (h₂ : Inside m m₂) (hheedless₁ : ∀ o ∈ m₁.outcomes moves₁, o.heeds = false)
    (hheedless₂ : ∀ o ∈ m₂.outcomes moves₂, o.heeds = false)
    (hcount : (m₁.outcomes moves₁).countP Outcome.ok = (m₂.outcomes moves₂).countP Outcome.ok) :
    (m₂.run moves₂).step.2.halt? = (m₁.run moves₁).step.2.halt? ∧
      ((m₂.run moves₂).halt.isSome = (m₁.run moves₁).halt.isSome →
        Inside (m₁.run moves₁) (m₂.run moves₂)) := by
  refine ⟨?_, fun hhalts => ?_⟩
  · rw [h₁.halt?_step_run hheedless₁ hcount, h₂.halt?_step_run hheedless₂ rfl]
  · obtain ⟨hm₁, hi₁⟩ | ⟨halt₁, hm₁, hi₁, -⟩ := h₁.run_cases hheedless₁ hcount <;>
      obtain ⟨hm₂, hi₂⟩ | ⟨halt₂, hm₂, hi₂, -⟩ := h₂.run_cases hheedless₂ rfl
    · exact hi₁.common hi₂
    · rw [hm₁, hm₂] at hhalts
      cases hhalts
    · rw [hm₁, hm₂] at hhalts
      cases hhalts
    · exact hi₁.common hi₂

/-- The outcomes of the steps that requests come to, as the answers tell them. -/
def told (m : Machine) (requests : List Request) : List Outcome :=
  (m.answers requests).flatMap Answer.outcomes

theorem inside_loaded {r s : RandomSource} (hbytes : r.SameBytes s) (frame : Nat) :
    Inside (loaded c r program) (loaded { c with instructionsPerFrame := frame } s program) :=
  ⟨rfl, hbytes⟩

/-- **A program sees its surroundings only where it looks.** A program is loaded into two
machines whose frames may differ in length. Whatever steps, frames, keys and ticks are
asked of the one and of the other: if no instruction so far has looked at the keypad or at
the delay timer and both have executed as many, what happens next is a fault in both or
in none, and the same one. And if both have stopped or both are running, the machines
agree in all but what surrounds the program. -/
theorem surroundings_unseen {random₁ random₂ : RandomSource} {m₁ m₂ : Machine} {frame : Nat}
    (h₁ : Reachable c random₁ m₁)
    (h₂ : Reachable { c with instructionsPerFrame := frame } random₂ m₂)
    (hbytes : m₁.random.SameBytes m₂.random)
    (hp : programStart + program.length ≤ c.memorySize) :
    ∃ p₁ p₂, m₁.loadProgram program = (p₁, .ok ()) ∧ m₂.loadProgram program = (p₂, .ok ()) ∧
      ∀ requests₁ requests₂ : List Request,
        (∀ o ∈ p₁.told requests₁, o.heeds = false) →
        (∀ o ∈ p₂.told requests₂, o.heeds = false) →
        (p₁.told requests₁).countP Outcome.ok = (p₂.told requests₂).countP Outcome.ok →
          (p₂.serveAll requests₂).step.2.halt? = (p₁.serveAll requests₁).step.2.halt? ∧
            ((p₂.serveAll requests₂).halt.isSome = (p₁.serveAll requests₁).halt.isSome →
              Inside (p₁.serveAll requests₁) (p₂.serveAll requests₂) ∧
                (p₂.serveAll requests₂).step.2 = (p₁.serveAll requests₁).step.2) := by
  have hl₁ := (Sound.of_reachable h₁).loadProgram_of_fits hp
  have hl₂ := (Sound.of_reachable h₂).loadProgram_of_fits hp
  refine ⟨_, _, hl₁, hl₂, fun requests₁ requests₂ hheedless₁ hheedless₂ hcount => ?_⟩
  rw [told, outcomes_answers] at hheedless₁ hheedless₂ hcount
  rw [told, outcomes_answers] at hcount
  obtain ⟨hnext, hagree⟩ := (Inside.refl _).runs_agree (inside_loaded hbytes frame) hheedless₁
    hheedless₂ hcount
  rw [serveAll_eq_run, serveAll_eq_run]
  exact ⟨hnext, fun hhalts => ⟨hagree hhalts, (hagree hhalts).step.1⟩⟩

/-- The settings of a machine with shorter frames. -/
def brief : Config := { small with instructionsPerFrame := 3 }

/-- A program that sets both timers, takes a random byte, stores its digits and returns
without a call. -/
def unheeding : List UInt8 :=
  [0x60, 0x05, 0xF0, 0x15, 0xF0, 0x18, 0xC1, 0xFF, 0xF1, 0x33, 0x00, 0xEE]

/-- Its five instructions before the return, four of them in a frame with a key down. -/
def longFrame : List Request := [.frame lastKeyDown, .move .step]

/-- The same instructions, three of them in a frame, with a tick and no key. -/
def shortFrame : List Request := [.frame .null, .move .step, .move .tick, .move .step]

theorem surroundings_unseen_unheeding :
    ∃ p₁ p₂, stopped.loadProgram unheeding = (p₁, .ok ()) ∧
      (new brief multiples).loadProgram unheeding = (p₂, .ok ()) ∧
      (p₁.serveAll longFrame).timers = ⟨4, 4⟩ ∧ (p₂.serveAll shortFrame).timers = ⟨3, 3⟩ ∧
      Inside (p₁.serveAll longFrame) (p₂.serveAll shortFrame) ∧
      (p₂.serveAll shortFrame).step.2
        = .stopped (some 0x00EE) ⟨.stack .underflow, 0x20A⟩ := by
  have hquiet : (∀ o ∈ (loaded small stopped.random unheeding).told longFrame, o.heeds = false) ∧
      (∀ o ∈ (loaded brief multiples unheeding).told shortFrame, o.heeds = false) ∧
      ((loaded small stopped.random unheeding).told longFrame).countP Outcome.ok
        = ((loaded brief multiples unheeding).told shortFrame).countP Outcome.ok := by
    decide +kernel
  have hends : ((loaded small stopped.random unheeding).serveAll longFrame).timers = ⟨4, 4⟩ ∧
      ((loaded brief multiples unheeding).serveAll shortFrame).timers = ⟨3, 3⟩ ∧
      ((loaded brief multiples unheeding).serveAll shortFrame).halt.isSome
        = ((loaded small stopped.random unheeding).serveAll longFrame).halt.isSome ∧
      ((loaded small stopped.random unheeding).serveAll longFrame).step.2
        = .stopped (some 0x00EE) ⟨.stack .underflow, 0x20A⟩ := by
    decide +kernel
  have hfits : programStart + unheeding.length ≤ 0x20C := by decide
  have hnew : Reachable brief multiples (new brief multiples) := .new
  obtain ⟨p₁, p₂, hl₁, hl₂, hall⟩ := surroundings_unseen reachable_stopped hnew
    sameBytes_stopped_multiples hfits
  have hloaded₁ := (Sound.of_reachable reachable_stopped).loadProgram_of_fits hfits
  have hloaded₂ := (Sound.of_reachable hnew).loadProgram_of_fits hfits
  obtain ⟨rfl, -⟩ := Prod.mk.inj (hl₁.symm.trans hloaded₁)
  obtain ⟨rfl, -⟩ := Prod.mk.inj (hl₂.symm.trans hloaded₂)
  obtain ⟨htimers₁, htimers₂, hhalts, hreturn⟩ := hends
  obtain ⟨-, hagree⟩ := hall longFrame shortFrame hquiet.1 hquiet.2.1 hquiet.2.2
  obtain ⟨hinside, hnext⟩ := hagree hhalts
  exact ⟨_, _, hl₁, hl₂, htimers₁, htimers₂, hinside, hnext.trans hreturn⟩

end Machine
end ChipEight
