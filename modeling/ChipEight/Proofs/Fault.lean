/-
# When a step fails, and what is left of it

`Machine.dueFault?` tells from a machine alone which fault its next step meets, if
any: the word may be out of reach or no instruction, and of the instructions a
call, a return and the four that go to the memory at the index may be refused
(`Machine.refusal?`). A step of a reachable machine fails when a fault is due, and
with that fault (`Machine.Sound.step_cases`); nothing else goes wrong in it.

A refused instruction leaves the machine as it was, but for a draw, which has
cleared the flag by then (`Machine.refused`). So a step that fails is not always
atomic, and `Machine.beforeDraw` is a machine for which it is not.
-/

import ChipEight.Proofs.Wide.Erasure

namespace ChipEight.Machine

variable {m m' : Machine} {op : Opcode} {f : Fields} {fault : Fault}

/-- Why `count` bytes from the index on are refused, if they are. -/
def blockFault? (m : Machine) (count : Nat) : Option Fault :=
  (Memory.refusal? m.memory.size m.index count).map .outOfBounds

/-- The rows of a sprite that are on screen; a draw clears the flag before it looks
where to start. -/
def visibleRows (m : Machine) (f : Fields) : Nat :=
  min f.n (32 - ((m.setReg flag 0).reg f.y).toNat % 32)

/-- Why an instruction is refused, if it is. -/
def refusal? (m : Machine) (op : Opcode) (f : Fields) : Option Fault :=
  match op with
  | .call => if m.stack.used = stackDepth then some (.stack .overflow) else none
  | .ret => if m.stack.used = 0 then some (.stack .underflow) else none
  | .decimal => m.blockFault? 3
  | .store | .load => m.blockFault? (f.x + 1)
  | .draw => m.blockFault? (m.visibleRows f)
  | _ => none

/-- What a refused instruction leaves. -/
def refused (m : Machine) (op : Opcode) : Machine :=
  if op = .draw then m.setReg flag 0 else m

/-- The fault that the next step meets, if any. -/
def dueFault? (m : Machine) : Option Fault :=
  match Memory.refusal? m.memory.size m.pc 2 with
  | some e => some (.outOfBounds e)
  | none =>
    let word := m.memory.word m.pc
    match Opcode.ofWord? word with
    | none => some (.invalidInstruction word)
    | some op => m.refusal? op (Fields.ofWord word)

/-- The operation that the next step executes, if it comes to that. -/
def fetched? (m : Machine) : Option Opcode :=
  match Memory.refusal? m.memory.size m.pc 2 with
  | some _ => none
  | none => Opcode.ofWord? (m.memory.word m.pc)

/-- What the next step leaves of the machine if it fails, but for the halt. -/
def leftBehind (m : Machine) : Machine :=
  if m.fetched? = some .draw then m.setReg flag 0 else m

theorem pc_leftBehind (m : Machine) : m.leftBehind.pc = m.pc := by
  unfold leftBehind
  split <;> rfl

theorem halt_leftBehind (m : Machine) : m.leftBehind.halt = m.halt := by
  unfold leftBehind
  split <;> rfl

theorem blockFault_cases (m : Machine) (count : Nat) :
    (∃ e, m.blockFault? count = some (.outOfBounds e) ∧
        Memory.refusal? m.memory.size m.index count = some e) ∨
      m.blockFault? count = none ∧ Memory.refusal? m.memory.size m.index count = none := by
  unfold blockFault?
  cases Memory.refusal? m.memory.size m.index count with
  | some e => exact .inl ⟨e, rfl, rfl⟩
  | none => exact .inr ⟨rfl, rfl⟩

theorem execute_draw_of_some {e : Memory.OutOfBounds}
    (h : Memory.refusal? m.memory.size m.index (m.visibleRows f) = some e) :
    m.execute .draw f = (m.refused .draw, .error (.outOfBounds e)) := by
  rw [visibleRows] at h
  simp only [execute, drawSprite, memory_setReg, index_setReg, Memory.readBlock_eq, h]
  rfl

theorem execute_draw_of_none
    (h : Memory.refusal? m.memory.size m.index (m.visibleRows f) = none) :
    ∃ m' next, m.execute .draw f = (m', .ok next) := by
  rw [visibleRows] at h
  simp only [execute, drawSprite, memory_setReg, index_setReg, Memory.readBlock_eq, h]
  exact ⟨_, _, rfl⟩

/-- **An instruction is refused when a refusal is due**, and succeeds otherwise. -/
theorem execute_cases (hd : m.stack.depth = stackDepth) (hpc : m.pc ≤ 65535) (op : Opcode)
    (f : Fields) :
    (∃ fault, m.refusal? op f = some fault ∧ m.execute op f = (m.refused op, .error fault)) ∨
      m.refusal? op f = none ∧ ∃ m' next, m.execute op f = (m', .ok next) := by
  cases op
  case call =>
    by_cases hu : m.stack.used = stackDepth
    · refine .inl ⟨_, if_pos hu, ?_⟩
      simp only [execute, CallStack.push_of_full (hu.trans hd.symm)]
      rfl
    · obtain ⟨s, hs⟩ := CallStack.exists_push (hd ▸ hu) hpc
      exact .inr ⟨if_neg hu, _, _, by simp only [execute, hs]; rfl⟩
  case ret =>
    by_cases hu : m.stack.used = 0
    · refine .inl ⟨_, if_pos hu, ?_⟩
      simp only [execute, CallStack.pop_of_empty hu]
      rfl
    · obtain ⟨a, s, hs⟩ := CallStack.exists_pop hu
      exact .inr ⟨if_neg hu, _, _, by simp only [execute, hs]; rfl⟩
  case decimal =>
    obtain ⟨e, hb, hr⟩ | ⟨hb, hr⟩ := m.blockFault_cases 3
    · exact .inl ⟨_, hb, by simp only [execute, Memory.load_eq, List.length, hr]; rfl⟩
    · exact .inr ⟨hb, _, _, by simp only [execute, Memory.load_eq, List.length, hr]; rfl⟩
  case store =>
    obtain ⟨e, hb, hr⟩ | ⟨hb, hr⟩ := m.blockFault_cases (f.x + 1)
    · exact .inl ⟨_, hb, by simp only [execute, Memory.load_eq, length_firstRegs, hr]; rfl⟩
    · exact .inr ⟨hb, _, _, by simp only [execute, Memory.load_eq, length_firstRegs, hr]; rfl⟩
  case load =>
    obtain ⟨e, hb, hr⟩ | ⟨hb, hr⟩ := m.blockFault_cases (f.x + 1)
    · exact .inl ⟨_, hb, by simp only [execute, Memory.readBlock_eq, hr]; rfl⟩
    · exact .inr ⟨hb, _, _, by simp only [execute, Memory.readBlock_eq, hr]; rfl⟩
  case draw =>
    obtain ⟨e, hb, hr⟩ | ⟨hb, hr⟩ := m.blockFault_cases (m.visibleRows f)
    · exact .inl ⟨_, hb, execute_draw_of_some hr⟩
    · exact .inr ⟨hb, execute_draw_of_none hr⟩
  case waitKey =>
    refine .inr ⟨rfl, ?_⟩
    simp only [execute]
    split <;> exact ⟨_, _, rfl⟩
  all_goals exact .inr ⟨rfl, _, _, rfl⟩

theorem dueFault?_of_word (hpc : m.pc + 2 ≤ m.memory.size)
    (ho : Opcode.ofWord? (m.memory.word m.pc) = some op) :
    m.dueFault? = m.refusal? op (Fields.ofWord (m.memory.word m.pc)) := by
  simp only [dueFault?, Memory.refusal?_eq_none.2 hpc, ho]

theorem fetched?_of_word (hpc : m.pc + 2 ≤ m.memory.size) :
    m.fetched? = Opcode.ofWord? (m.memory.word m.pc) := by
  simp only [fetched?, Memory.refusal?_eq_none.2 hpc]

theorem fetched?_eq_some : m.fetched? = some op ↔
    m.pc + 2 ≤ m.memory.size ∧ Opcode.ofWord? (m.memory.word m.pc) = some op := by
  rw [fetched?, ← Memory.refusal?_eq_none]
  cases Memory.refusal? m.memory.size m.pc 2 with
  | some e => simp
  | none => simp

namespace Sound

variable {c : Config}

theorem execute_cases (hc : c.MemoryInRange) (h : Sound c m) (hpc : m.pc + 2 ≤ m.memory.size)
    (op : Opcode) (f : Fields) :
    (∃ fault, m.refusal? op f = some fault ∧ m.execute op f = (m.refused op, .error fault)) ∨
      m.refusal? op f = none ∧ ∃ m' next, m.execute op f = (m', .ok next) := by
  have hmax : c.memorySize ≤ 0x10000 := hc.2
  have hsize := h.size
  exact Machine.execute_cases h.depth (by omega) op f

/-- **A step stops the machine if a fault is due**, and runs an instruction otherwise. -/
theorem step_cases (hc : c.MemoryInRange) (h : Sound c m) (hm : m.halt = none) :
    (∃ fault word?, m.dueFault? = some fault ∧ m.step = m.leftBehind.stop word? fault) ∨
      m.dueFault? = none ∧ ∃ m' word, m.step = (m', .ran m.pc word) := by
  refine Machine.step_cases m ?halted ?noWord ?noOpcode ?faulted ?ran
  case halted =>
    intro halt hm'
    cases hm.symm.trans hm'
  case noWord =>
    intro e _ hr
    refine .inl ⟨.outOfBounds e, none, by simp only [dueFault?, hr], ?_⟩
    rw [leftBehind, if_neg (by simp [fetched?, hr])]
  case noOpcode =>
    rintro word _ hpc rfl ho
    refine .inl ⟨.invalidInstruction (m.memory.word m.pc), some (m.memory.word m.pc), ?_, ?_⟩
    · simp only [dueFault?, Memory.refusal?_eq_none.2 hpc, ho]
    · rw [leftBehind, if_neg (by simp [fetched?_of_word hpc, ho])]
  case faulted =>
    rintro word op m' fault _ hpc rfl ho hx
    rw [dueFault?_of_word hpc ho, leftBehind, fetched?_of_word hpc, ho]
    obtain ⟨fault', hr, hx'⟩ | ⟨_, m'', next, hx'⟩ := h.execute_cases hc hpc op (Fields.ofWord _)
    · cases hx.symm.trans hx'
      refine .inl ⟨fault, some (m.memory.word m.pc), hr, ?_⟩
      simp only [refused, Option.some.injEq]
    · cases hx.symm.trans hx'
  case ran =>
    rintro word op m' next _ hpc rfl ho hx
    rw [dueFault?_of_word hpc ho]
    obtain ⟨fault', hr, hx'⟩ | ⟨hr, _⟩ := h.execute_cases hc hpc op (Fields.ofWord _)
    · cases hx.symm.trans hx'
    · exact .inr ⟨hr, _, _, rfl⟩

/-- **A step that fails leaves the machine as it was**, but for the halt and the
flag of a draw. -/
theorem step_of_not_ok (hc : c.MemoryInRange) (h : Sound c m) (hm : m.halt = none)
    (hf : m.step.2.ok = false) : { m.step.1 with halt := none } = m.leftBehind := by
  obtain ⟨fault, word?, -, hs⟩ | ⟨-, m', word, hs⟩ := h.step_cases hc hm
  · rw [hs]
    show { m.leftBehind with halt := none } = m.leftBehind
    rw [← hm, ← m.halt_leftBehind]
  · rw [hs] at hf
    cases hf

end Sound

/-- A machine about to draw two rows from the last byte of its memory, with the flag
set. -/
def beforeDraw : Machine :=
  (((new {} .zeros).act (.load (.bytes [0x6F, 0x01, 0xAF, 0xFF, 0xD0, 0x02]))).act .step).act .step

theorem reachable_beforeDraw : Reachable {} .zeros beforeDraw :=
  .act .step (.act .step (.act _ .new))

/-- **A step fails exactly if a fault is due, and with that fault**; on plain numbers
nothing else goes wrong in it. -/
theorem step_faults_iff_due {c : Config} {random : RandomSource} (hc : c.MemoryInRange)
    (h : Reachable c random m) (hm : m.halt = none) :
    m.wide.step = .ok (m.step.1.wide, m.step.2.wide) ∧
      m.step.2.halt? = m.dueFault?.map fun fault => ⟨fault, m.pc⟩ := by
  have hs := Sound.of_reachable h
  refine ⟨hs.wide_step hc, ?_⟩
  obtain ⟨fault, word?, hd, hs⟩ | ⟨hd, m', word, hs⟩ := hs.step_cases hc hm
  · rw [hs, hd]
    show some (Halt.mk fault m.leftBehind.pc) = some ⟨fault, m.pc⟩
    rw [pc_leftBehind]
  · rw [hs, hd]
    rfl

theorem step_faults_iff_due_beforeDraw :
    Config.MemoryInRange {} ∧ Reachable {} .zeros beforeDraw ∧ beforeDraw.halt = none ∧
      beforeDraw.step.2.halt? = some ⟨.outOfBounds ⟨0x1000, 0x1000⟩, 0x204⟩ := by
  have hm : beforeDraw.halt = none := by decide +kernel
  have hd : beforeDraw.dueFault? = some (.outOfBounds ⟨0x1000, 0x1000⟩) := by decide +kernel
  have hpc : beforeDraw.pc = 0x204 := by decide +kernel
  have h := (step_faults_iff_due (by decide) reachable_beforeDraw hm).2
  rw [hd, hpc] at h
  exact ⟨by decide, reachable_beforeDraw, hm, h⟩

/-- **A step that fails is atomic unless it draws over a flag that is set.** It
leaves everything but the halt as it was, or everything but the halt and the flag. -/
theorem failed_step_atomic_iff {c : Config} {random : RandomSource} (hc : c.MemoryInRange)
    (h : Reachable c random m) (hm : m.halt = none) (hf : m.step.2.ok = false) :
    ({ m.step.1 with halt := none } = m ↔ ¬ (m.fetched? = some .draw ∧ m.reg flag ≠ 0)) ∧
      ({ m.step.1 with halt := none } = m ∨
        { m.step.1 with halt := none } = m.setReg flag 0) := by
  rw [(Sound.of_reachable h).step_of_not_ok hc hm hf, leftBehind]
  by_cases hd : m.fetched? = some .draw
  · rw [if_pos hd, setReg_eq_self]
    exact ⟨by simp [hd], .inr rfl⟩
  · rw [if_neg hd]
    exact ⟨by simp [hd], .inl rfl⟩

theorem failed_step_atomic_iff_beforeDraw :
    beforeDraw.step.2.ok = false ∧
      ({ beforeDraw.step.1 with halt := none } = beforeDraw
        ↔ ¬ (beforeDraw.fetched? = some .draw ∧ beforeDraw.reg flag ≠ 0)) := by
  have hf : beforeDraw.step.2.ok = false := by decide +kernel
  exact ⟨hf, (failed_step_atomic_iff (by decide) reachable_beforeDraw (by decide +kernel) hf).1⟩

/-- **A step that fails may change the machine**: the draw fails and the flag is gone. -/
theorem failed_step_not_atomic : ¬ ∀ (c : Config) (random : RandomSource) (m : Machine),
    c.MemoryInRange → Reachable c random m → m.halt = none → m.step.2.ok = false →
      { m.step.1 with halt := none } = m := by
  intro h
  have hr (m : Machine) (hm : { m.step.1 with halt := none } = m) :
      m.step.1.registers = m.registers := by
    have hr := congrArg Machine.registers hm
    exact hr
  refine absurd (hr beforeDraw (h {} .zeros beforeDraw ?_ reachable_beforeDraw ?_ ?_)) ?_
  all_goals decide +kernel

end ChipEight.Machine
