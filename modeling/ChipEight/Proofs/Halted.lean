/-
# A machine that has stopped

A halt says where the machine stopped, and there it stays: the address of the halt is
the program counter of every reachable machine that has one
(`Machine.halt_pc_of_reachable`). From then on steps and frames answer with that same
halt and change nothing but the keypad, which shows the last snapshot
(`Machine.serve_of_halt`). Only a tick by itself would still move the timers.
-/

import ChipEight.Proofs.Invariant
import ChipEight.Proofs.Run

namespace ChipEight

/-- The keypad after a request, as far as it latches. -/
def Keypad.after (pad : Keypad) : Request → Keypad
  | .move (.latch keypad) => keypad
  | .move _ => pad
  | .frame snapshot =>
    match Keypad.latchHost snapshot with
    | .ok keypad => keypad
    | .error _ => pad

/-- The request is a step, or a frame with a snapshot of sixteen entries or none. -/
def Request.Runs : Request → Prop
  | .move .step => True
  | .move _ => False
  | .frame snapshot =>
    snapshot = .null ∨ ∃ entries, snapshot.truths? = some entries ∧ entries.length = 16

theorem Keypad.exists_latchHost {snapshot : Value} {entries : List Bool}
    (h : snapshot.truths? = some entries) (hl : entries.length = 16) :
    ∃ keypad, Keypad.latchHost snapshot = .ok keypad := by
  refine ⟨⟨⟨entries.toArray, by simpa using hl⟩⟩, ?_⟩
  rw [latchHost, snapshotOf, h]
  show (latch entries).mapError _ = _
  rw [latch, dif_pos hl]
  rfl

/-- What is reported of a frame of a machine that has stopped. -/
def FrameReport.halted (halt : Halt) : FrameReport := ⟨[.halted halt], some halt⟩

@[simp] theorem FrameReport.executed_halted (halt : Halt) : (halted halt).executed = 0 := rfl

/-- What a machine that has stopped answers. -/
def Halt.answer (halt : Halt) : Request → Answer
  | .move .step => .outcome (.halted halt)
  | .move _ => .done
  | .frame _ => .report (.ok (.halted halt))

namespace Machine

variable {m : Machine} {halt : Halt} {c : Config} {random : RandomSource}

theorem halt_loadProgram (m : Machine) (program : List UInt8) :
    (m.loadProgram program).1.halt = none := by
  obtain ⟨memory, pc, hl, -⟩ := m.exists_loadProgram program
  rw [hl]
  rfl

/-- A step that meets a halt leaves it behind, and stays where it is. -/
theorem halt_step (h : m.step.2.halt? = some halt) :
    m.step.1.halt = some halt ∧ m.step.2.pc = halt.pc ∧ m.step.1.pc = m.pc := by
  revert h
  refine m.step_cases ?halted ?noWord ?noOpcode ?faulted ?ran
  case halted =>
    intro halt' hm h
    obtain rfl := Option.some.inj h
    exact ⟨hm, rfl, rfl⟩
  case noWord =>
    intro e _ _ h
    obtain rfl := Option.some.inj h
    exact ⟨rfl, rfl, rfl⟩
  case noOpcode =>
    intro word _ _ _ _ h
    obtain rfl := Option.some.inj h
    exact ⟨rfl, rfl, rfl⟩
  case faulted =>
    intro word op m' fault _ _ _ _ hx h
    have hpc := (sameOutside_execute m op (Fields.ofWord word)).pc
    rw [hx] at hpc
    obtain rfl := Option.some.inj h
    exact ⟨rfl, rfl, hpc⟩
  case ran => exact fun _ _ _ _ _ _ _ _ _ h => by cases h

/-- Every move keeps a halt at the program counter. -/
theorem kept_halt_pc : Kept fun m => ∀ halt, m.halt = some halt → halt.pc = m.pc where
  load := by
    intro m program _ halt hm
    rw [halt_loadProgram] at hm
    cases hm
  step := by
    intro m h
    refine m.step_cases ?halted ?noWord ?noOpcode ?faulted ?ran
    case halted => exact fun _ _ => h
    case noWord =>
      intro e _ _ halt hm
      obtain rfl := Option.some.inj hm
      rfl
    case noOpcode =>
      intro word _ _ _ _ halt hm
      obtain rfl := Option.some.inj hm
      rfl
    case faulted =>
      intro word op m' fault _ _ _ _ _ halt hm
      obtain rfl := Option.some.inj hm
      rfl
    case ran =>
      intro word op m' next hnone _ _ _ hx halt hm
      have hhalt := (sameOutside_execute m op (Fields.ofWord word)).halt
      rw [hx] at hhalt
      cases hm.symm.trans (hhalt.trans hnone)
  latch := fun _ h => h
  tick := fun h => h

/-- **A halt is where the machine stands.** -/
theorem halt_pc_of_reachable (h : Reachable c random m) (hm : m.halt = some halt) :
    halt.pc = m.pc :=
  kept_halt_pc.reachable (fun _ hm => by cases hm) h halt hm

theorem runLatched_of_halt (hm : m.halt = some halt) (hi : 0 < m.config.instructionsPerFrame) :
    m.runLatched = (m, .halted halt) := by
  obtain ⟨n, hn⟩ := Nat.exists_eq_succ_of_ne_zero (Nat.ne_of_gt hi)
  have hb : m.burst m.config.instructionsPerFrame = (m, [.halted halt]) := by
    rw [hn, burst_succ, step_of_halt hm]
    rfl
  rw [runLatched, hb]
  rfl

/-- **A machine that has stopped answers with its halt and changes but its keypad.** -/
theorem serve_of_halt (hm : m.halt = some halt) (hi : 0 < m.config.instructionsPerFrame)
    {r : Request} (hr : r.Runs) :
    m.serve r = { m with keypad := m.keypad.after r } ∧ m.answer r = halt.answer r := by
  cases r with
  | move a =>
    cases a with
    | step =>
      show m.step.1 = m ∧ Answer.outcome m.step.2 = .outcome (.halted halt)
      rw [step_of_halt hm]
      exact ⟨rfl, rfl⟩
    | latch _ | tick => exact hr.elim
  | frame snapshot =>
    obtain rfl | ⟨entries, he, hl⟩ := hr
    · show m.runLatched.1 = m ∧ Answer.report (.ok m.runLatched.2) = .report (.ok (.halted halt))
      rw [runLatched_of_halt hm hi]
      exact ⟨rfl, rfl⟩
    · obtain ⟨keypad, hk⟩ := Keypad.exists_latchHost he hl
      have hs : snapshot ≠ .null := by
        rintro rfl
        cases he
      have hrun : m.runFrameHost snapshot = .ok ({ m with keypad := keypad }, .halted halt) := by
        rw [runFrameHost_eq m hs, hk]
        exact congrArg Except.ok (runLatched_of_halt (m := { m with keypad := keypad }) hm hi)
      simp only [serve, act, answer, hrun, Keypad.after, hk]
      exact ⟨trivial, rfl⟩

/-- However many requests come, the answer stays the same. -/
theorem serveAll_of_halt (hm : m.halt = some halt) (hi : 0 < m.config.instructionsPerFrame)
    {requests : List Request} (hr : ∀ r ∈ requests, r.Runs) :
    m.answers requests = requests.map halt.answer ∧
      m.serveAll requests = { m with keypad := requests.foldl Keypad.after m.keypad } := by
  induction requests generalizing m with
  | nil => exact ⟨rfl, rfl⟩
  | cons r requests ih =>
    obtain ⟨hs, ha⟩ := serve_of_halt hm hi (hr r List.mem_cons_self)
    obtain ⟨has, hss⟩ := ih (m := { m with keypad := m.keypad.after r }) hm hi
      fun r' hr' => hr r' (List.mem_cons_of_mem r hr')
    rw [answers, serveAll_cons, hs, ha, has, hss]
    exact ⟨rfl, rfl⟩

/-- **A fault is for good, and says where.** The address of a halt that a step meets is
that of the instruction, where the machine stays. Whatever steps and frames are asked
for then, each answers with that same halt, and all that changes is the keypad. -/
theorem halt_sticks (hc : 0 < c.instructionsPerFrame) (h : Reachable c random m)
    (hf : m.step.2.halt? = some halt) :
    m.step.2.pc = m.pc ∧ halt.pc = m.pc ∧ m.step.1.pc = m.pc ∧
      (FrameReport.halted halt).executed = 0 ∧
      ∀ requests : List Request, (∀ r ∈ requests, r.Runs) →
        m.step.1.answers requests = requests.map halt.answer ∧
          m.step.1.serveAll requests
            = { m.step.1 with keypad := requests.foldl Keypad.after m.step.1.keypad } := by
  obtain ⟨hm, hpc, hstay⟩ := halt_step hf
  have hat : halt.pc = m.pc := (halt_pc_of_reachable (h.act .step) hm).trans hstay
  refine ⟨hpc.trans hat, hat, hstay, FrameReport.executed_halted halt, fun requests hr => ?_⟩
  have hconfig : m.step.1.config = c := (Sound.of_reachable (h.act .step)).config
  exact serveAll_of_halt hm (hconfig ▸ hc) hr

/-- A machine about to return without a call, at the end of its memory. -/
def beforeReturn : Machine :=
  ((new { memorySize := 0x204 } .zeros).act (.load (.bytes [0x60, 0x05, 0x00, 0xEE]))).act .step

theorem reachable_beforeReturn : Reachable { memorySize := 0x204 } .zeros beforeReturn :=
  .act .step (.act _ .new)

/-- A snapshot of a host with only the last key down. -/
def lastKeyDown : Value := .list (.replicate 15 (.int 0) ++ [.int 7])

theorem halt_sticks_beforeReturn :
    beforeReturn.step.2.halt? = some ⟨.stack .underflow, 0x202⟩ ∧
      beforeReturn.step.1.pc = 0x202 ∧
      beforeReturn.step.1.answers [.move .step, .frame lastKeyDown, .frame .null]
        = [.outcome (.halted ⟨.stack .underflow, 0x202⟩),
          .report (.ok (.halted ⟨.stack .underflow, 0x202⟩)),
          .report (.ok (.halted ⟨.stack .underflow, 0x202⟩))] ∧
      beforeReturn.step.1.serveAll [.move .step, .frame lastKeyDown, .frame .null]
        = { beforeReturn.step.1 with keypad := ⟨.ofFn fun key => key = 15⟩ } := by
  have hf : beforeReturn.step.2.halt? = some ⟨.stack .underflow, 0x202⟩ := by decide +kernel
  have hr : ∀ r ∈ [Request.move .step, .frame lastKeyDown, .frame .null], r.Runs := by
    simp only [List.forall_mem_cons, Request.Runs]
    exact ⟨trivial, .inr ⟨_, rfl, rfl⟩, .inl trivial, fun _ h => by cases h⟩
  obtain ⟨-, hat, hstay, -, hall⟩ := halt_sticks (by decide) reachable_beforeReturn hf
  obtain ⟨ha, hs⟩ := hall _ hr
  exact ⟨hf, hstay.trans hat.symm, ha, hs⟩

end Machine
end ChipEight
