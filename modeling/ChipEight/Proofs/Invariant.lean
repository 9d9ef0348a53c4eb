/-
# The invariant of a machine

`Machine.Sound` gathers what holds of a machine between any two moves of its host:
its parts keep the sizes and the mode they were made with, the timers hold bytes, an
address on the stack is that of a word inside the memory, and the program counter is at
most one skip behind the last such word or where a jump with an offset can lead. The
bounds hang together: a return goes behind a live address, a call makes one of a
program counter from which a word was just fetched.
-/

import ChipEight.Proofs.Footprint
import ChipEight.Proofs.History
import ChipEight.Proofs.Loading

namespace ChipEight.Machine

/-- The farthest address of a next instruction in a memory of `size` cells. -/
def maxPc (size : Nat) : Nat := max (size + 2) 0x10FE

/-- The number is one of a byte. -/
def IsByte (n : Int) : Prop := 0 ≤ n ∧ n ≤ 255

instance (n : Int) : Decidable (IsByte n) := inferInstanceAs (Decidable (_ ∧ _))

theorem isByte_zero : IsByte 0 := by decide

/-- What every move keeps. -/
structure Sound (c : Config) (m : Machine) : Prop where
  config : m.config = c
  size : m.memory.size = c.memorySize
  depth : m.stack.depth = stackDepth
  mode : m.keyWait.mode = c.keyWait
  live : ∀ a ∈ m.stack.live, a + 2 ≤ c.memorySize
  delay : IsByte m.timers.delay
  sound : IsByte m.timers.sound
  index : m.index ≤ max 0xFFFF c.memorySize
  pc : m.pc ≤ maxPc c.memorySize

namespace Sound

variable {c : Config} {m m' : Machine}

theorem new (c : Config) (random : RandomSource) : Sound c (new c random) where
  config := rfl
  size := Memory.size_blank _
  depth := CallStack.depth_empty _
  mode := rfl
  live := fun a ha => by cases ha
  delay := isByte_zero
  sound := isByte_zero
  index := Nat.zero_le _
  pc := by simp only [Machine.new, programStart, maxPc]; omega

theorem reset (h : Sound c m) : Sound c m.reset where
  config := h.config
  size := (Memory.size_clear _).trans h.size
  depth := (CallStack.depth_clear _).trans h.depth
  mode := h.mode
  live := fun a ha => by cases ha
  delay := isByte_zero
  sound := isByte_zero
  index := Nat.zero_le _
  pc := h.pc

theorem load (h : Sound c m) (program : List UInt8) : Sound c (m.loadProgram program).1 := by
  have hr := h.reset
  obtain ⟨memory, pc, hl, hs, hpc⟩ := m.exists_loadProgram program
  rw [hl]
  refine { hr with size := hs.trans h.size, pc := ?_ }
  obtain rfl | rfl := hpc
  · exact h.pc
  · simp only [programStart, maxPc]
    omega

theorem latch (h : Sound c m) (keypad : Keypad) : Sound c { m with keypad := keypad } :=
  { h with }

theorem stop (h : Sound c m) (word? : Option Nat) (fault : Fault) :
    Sound c (m.stop word? fault).1 :=
  { h with }

theorem isByte_countDown {n : Int} (h : IsByte n) : IsByte (Timers.countDown n) := by
  obtain ⟨h₀, h₁⟩ := h
  rw [IsByte, Timers.countDown_of_nonneg h₀]
  omega

theorem tick (h : Sound c m) : Sound c m.tick :=
  { h with delay := isByte_countDown h.delay, sound := isByte_countDown h.sound }

theorem isByte_reg (m : Machine) (r : Fin 16) : IsByte (m.reg r).toNat := by
  have := (m.reg r).toNat_lt
  rw [IsByte]
  omega

/-- **An instruction keeps the invariant**, as long as a word was fetched for it. -/
theorem execute (h : Sound c m) (hpc : m.pc + 2 ≤ c.memorySize) (op : Opcode) (f : Fields) :
    Sound c (m.execute op f).1 := by
  have same := sameOutside_execute m op f
  have ⟨hdelay, hsound⟩ := timers_execute m op f
  constructor
  · exact same.config.trans h.config
  · exact (size_execute m op f).trans h.size
  · exact (depth_execute m op f).trans h.depth
  · exact (mode_execute m op f).trans h.mode
  · intro a ha
    obtain ha | rfl := mem_live_execute ha
    · exact h.live a ha
    · exact hpc
  · obtain hd | ⟨-, r, hd⟩ := hdelay
    · exact hd ▸ h.delay
    · exact hd ▸ isByte_reg m r
  · obtain hs | ⟨-, r, hs⟩ := hsound
    · exact hs ▸ h.sound
    · exact hs ▸ isByte_reg m r
  · have := index_execute m op f
    have := h.index
    rw [h.size] at *
    omega
  · rw [same.pc]
    exact h.pc

/-- **A step keeps the invariant.** -/
theorem step (h : Sound c m) : Sound c m.step.1 := by
  refine m.step_cases ?halted ?noWord ?noOpcode ?faulted ?ran
  case halted => exact fun _ _ => h
  case noWord => exact fun _ _ _ => h.stop none _
  case noOpcode => exact fun word _ _ _ _ => h.stop (some word) _
  case faulted =>
    intro word op m' fault _ hpc _ _ hx
    have hx' := h.execute (h.size ▸ hpc) op (Fields.ofWord word)
    rw [hx] at hx'
    exact hx'.stop (some word) fault
  case ran =>
    intro word op m' next _ hpc _ _ hx
    have hpc' : m.pc + 2 ≤ c.memorySize := h.size ▸ hpc
    have hx' := h.execute hpc' op (Fields.ofWord word)
    have hnext : next ≤ m.pc + 4 ∨ next ≤ 0x10FE ∨ ∃ a ∈ m.stack.live, next = a + 2 :=
      next_execute_cases (congrArg Prod.snd hx)
    rw [hx] at hx'
    refine { hx' with pc := ?_ }
    show next ≤ maxPc c.memorySize
    rw [maxPc]
    obtain hn | hn | ⟨a, ha, rfl⟩ := hnext
    · omega
    · omega
    · have := h.live a ha
      omega

/-- Every move keeps the invariant. -/
theorem kept (c : Config) : Kept (Sound c) where
  load := fun program h => h.load program
  step := Sound.step
  latch := fun keypad h => h.latch keypad
  tick := Sound.tick

/-- **The invariant holds of every reachable machine.** -/
theorem of_reachable {random : RandomSource} (h : Reachable c random m) : Sound c m :=
  (kept c).reachable (Sound.new c random) h

end Sound
end ChipEight.Machine
