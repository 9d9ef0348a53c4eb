/-
# A load forgets the past

A reset leaves of a reachable machine nothing but its source of random bytes and its
program counter: all else is as it was when the machine was new
(`Machine.Sound.reset_eq`). A load that succeeds puts the program counter at the start,
too, so what it leaves depends on the program, the configuration and the random bytes to
come alone (`Machine.load_forgets`).
-/

import ChipEight.Proofs.Halted
import ChipEight.Proofs.Twins

namespace ChipEight.Machine

variable {c : Config} {m : Machine} {program : List UInt8}

/-- A new machine with a program in its memory. -/
def loaded (c : Config) (random : RandomSource) (program : List UInt8) : Machine :=
  { new c random with memory := ⟨(image c.memorySize program).toArray⟩ }

namespace Sound

/-- **A reset makes a machine new** but for its program counter and its random bytes. -/
theorem reset_eq (h : Sound c m) : m.reset = { Machine.new c m.random with pc := m.pc } := by
  simp only [Machine.reset, Machine.new, Memory.clear, CallStack.clear, KeyWait.reset, h.config,
    h.size, h.depth, h.mode]
  rfl

theorem loadProgram_of_fits (h : Sound c m) (hp : programStart + program.length ≤ c.memorySize) :
    m.loadProgram program = (loaded c m.random program, .ok ()) := by
  rw [Machine.loadProgram_of_fits (h.size ▸ hp), h.reset_eq, h.size]
  rfl

theorem loadProgram_of_not_fits (hc : c.MemoryInRange) (h : Sound c m)
    (hp : c.memorySize < programStart + program.length) :
    (m.loadProgram program).2 = .error ⟨c.memorySize, c.memorySize⟩ := by
  have hmin : 0x202 ≤ c.memorySize := hc.1
  have hstart : programStart ≤ m.memory.size := by
    rw [h.size, programStart]
    omega
  rw [Machine.loadProgram_of_not_fits hstart (h.size ▸ hp), h.size]

/-- A load succeeds exactly if the program fits. -/
theorem loadProgram_snd (hc : c.MemoryInRange) (h : Sound c m) (program : List UInt8) :
    (m.loadProgram program).2 = if programStart + program.length ≤ c.memorySize then .ok ()
      else .error ⟨c.memorySize, c.memorySize⟩ := by
  split
  next hp => rw [h.loadProgram_of_fits hp]
  next hp => exact h.loadProgram_of_not_fits hc (Nat.lt_of_not_le hp)

end Sound

theorem twins_loaded {r s : RandomSource} (h : r.SameBytes s) :
    Twins (loaded c r program) (loaded c s program) := ⟨rfl, h⟩

/-- A step draws at most one number. -/
theorem random_step (m : Machine) :
    m.step.1.random = m.random ∨ m.step.1.random = m.random.draw.2 := by
  have hx (op : Opcode) (f : Fields) : (m.execute op f).1.random = m.random ∨
      (m.execute op f).1.random = m.random.draw.2 := by
    rw [random_execute]
    split
    · exact .inr rfl
    · exact .inl rfl
  exact step_inherits (.inl rfl) hx (fun _ _ _ h => h) (fun _ _ _ h => h)

/-- **A source of random bytes only moves on**, whatever is loaded in between. -/
theorem exists_random_after {random : RandomSource} (h : Reachable c random m) :
    ∃ n, m.random = random.after n := by
  have hkept : Kept fun m => ∃ n, m.random = random.after n := {
    load := by
      rintro m program ⟨n, hn⟩
      obtain ⟨memory, pc, hl, -⟩ := m.exists_loadProgram program
      rw [hl]
      exact ⟨n, hn⟩
    step := by
      rintro m ⟨n, hn⟩
      obtain hr | hr := m.random_step
      · exact ⟨n, hr.trans hn⟩
      · exact ⟨n + 1, by rw [hr, hn, RandomSource.draw_after]⟩
    latch := fun _ h => h
    tick := fun h => h }
  exact hkept.reachable ⟨0, rfl⟩ h

/-- **A load forgets the past.** Of two machines with one configuration, whatever has
become of them, a program is loaded into both or refused by both. If it is loaded they
are the same machine but for their sources of random bytes; and if these give the same
bytes, all that is asked of them from then on has the same answers and leaves them the
same. -/
theorem load_forgets {random₁ random₂ : RandomSource} {m₁ m₂ : Machine} (hc : c.MemoryInRange)
    (h₁ : Reachable c random₁ m₁) (h₂ : Reachable c random₂ m₂) (program : List UInt8) :
    (program.length ≤ c.memorySize - 0x200 →
      (m₁.loadProgram program).2 = .ok () ∧ (m₂.loadProgram program).2 = .ok () ∧
        (m₁.loadProgram program).1.memory.cells.toList = image c.memorySize program ∧
        (m₁.loadProgram program).1.halt = none ∧ (m₁.loadProgram program).1.pc = 0x200 ∧
        (m₂.loadProgram program).1 = (m₁.loadProgram program).1.withRandom m₂.random ∧
        (m₁.random.SameBytes m₂.random → ∀ requests : List Request,
          (m₂.loadProgram program).1.answers requests
              = (m₁.loadProgram program).1.answers requests ∧
            Twins ((m₁.loadProgram program).1.serveAll requests)
              ((m₂.loadProgram program).1.serveAll requests))) ∧
      (c.memorySize - 0x200 < program.length →
        (m₁.loadProgram program).2 = .error ⟨c.memorySize, c.memorySize⟩ ∧
          (m₂.loadProgram program).2 = .error ⟨c.memorySize, c.memorySize⟩) := by
  have hmin : 0x202 ≤ c.memorySize := hc.1
  have hs₁ := Sound.of_reachable h₁
  have hs₂ := Sound.of_reachable h₂
  refine ⟨fun hfits => ?fits, fun hfits => ?refused⟩
  case fits =>
    have hp : programStart + program.length ≤ c.memorySize := by
      rw [programStart]
      omega
    rw [hs₁.loadProgram_of_fits hp, hs₂.loadProgram_of_fits hp]
    refine ⟨rfl, rfl, rfl, rfl, rfl, rfl, fun hbytes requests => ?_⟩
    exact ((twins_loaded hbytes).serveAll requests).symm
  case refused =>
    have hp : c.memorySize < programStart + program.length := by
      rw [programStart]
      omega
    exact ⟨hs₁.loadProgram_of_not_fits hc hp, hs₂.loadProgram_of_not_fits hc hp⟩

/-- The settings of the two machines below. -/
def small : Config := { memorySize := 0x20C, instructionsPerFrame := 4 }

/-- A machine that has stopped at a return without a call, with a key down. -/
def stopped : Machine :=
  ((new small .zeros).act (.load (.bytes [0x00, 0xEE]))).act (.frame lastKeyDown)

/-- Numbers that are not zero and bytes that are. -/
def multiples : RandomSource := .tape (fun n => 256 * n) 0

/-- A machine that has drawn a random byte and a sprite, overwritten its program in a
subroutine, and waits there for a key to come up. -/
def waiting : Machine :=
  (((new small multiples).act (.load (.bytes
    [0xC0, 0xFF, 0x22, 0x04, 0xD0, 0x05, 0xA2, 0x00, 0xF0, 0x55, 0xF0, 0x0A]))).act
      (.frame lastKeyDown)).act (.frame .null)

theorem reachable_stopped : Reachable small .zeros stopped := .act _ (.act _ .new)

theorem reachable_waiting : Reachable small multiples waiting := .act _ (.act _ (.act _ .new))

theorem sameBytes_zeros_multiples (i j : Nat) :
    (RandomSource.zeros.after i).SameBytes (multiples.after j) := by
  intro n
  have hzero (k : Nat) : UInt8.ofInt (256 * k) = UInt8.ofInt 0 := by
    show UInt8.ofNat (256 * (k : Int) % 256).toNat = _
    rw [Int.mul_emod_right]
    rfl
  rw [RandomSource.stream_after, RandomSource.stream_after, RandomSource.zeros, multiples,
    RandomSource.stream_tape, RandomSource.stream_tape, hzero]

theorem sameBytes_stopped_multiples : stopped.random.SameBytes multiples := by
  obtain ⟨i, hi⟩ := exists_random_after reachable_stopped
  rw [hi]
  exact sameBytes_zeros_multiples i 0

theorem sameBytes_stopped_waiting : stopped.random.SameBytes waiting.random := by
  obtain ⟨i, hi⟩ := exists_random_after reachable_stopped
  obtain ⟨j, hj⟩ := exists_random_after reachable_waiting
  rw [hi, hj]
  exact sameBytes_zeros_multiples i j

/-- A program that fills their memory, with a random byte and a wait for a key. -/
def filling : List UInt8 :=
  [0xC1, 0xFF, 0x81, 0x14, 0xF1, 0x0A, 0xF1, 0x33, 0x12, 0x00, 0xAB, 0xCD]

theorem load_forgets_stopped_waiting :
    stopped.halt = some ⟨.stack .underflow, 0x200⟩ ∧ waiting.stack.live = [0x202] ∧
      waiting.keyWait.phase = .observed 15 ∧ waiting.screen.lit = 14 ∧
      (stopped.loadProgram filling).1.memory.cells.toList = image 0x20C filling ∧
      (waiting.loadProgram filling).1
        = (stopped.loadProgram filling).1.withRandom waiting.random ∧
      (∀ requests, (waiting.loadProgram filling).1.answers requests
        = (stopped.loadProgram filling).1.answers requests) ∧
      (stopped.loadProgram (0 :: filling)).2 = .error ⟨0x20C, 0x20C⟩ ∧
      (waiting.loadProgram (0 :: filling)).2 = .error ⟨0x20C, 0x20C⟩ := by
  have hstopped : stopped.halt = some ⟨.stack .underflow, 0x200⟩ := by decide +kernel
  have hwaiting : waiting.stack.live = [0x202] ∧ waiting.keyWait.phase = .observed 15 ∧
      waiting.screen.lit = 14 := by decide +kernel
  have hfits := load_forgets (by decide) reachable_stopped reachable_waiting filling
  have hrefused := load_forgets (by decide) reachable_stopped reachable_waiting (0 :: filling)
  obtain ⟨-, -, himage, -, -, hsame, htwins⟩ := hfits.1 (by decide)
  exact ⟨hstopped, hwaiting.1, hwaiting.2.1, hwaiting.2.2, himage, hsame,
    fun requests => (htwins sameBytes_stopped_waiting requests).1, hrefused.2 (by decide)⟩

end ChipEight.Machine
