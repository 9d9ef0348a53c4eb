/-
# A load that is refused

A value that stands for no bytes is refused before the machine is touched. A program that
does not fit is refused only when its turn comes, behind the reset and the glyphs. By
then the halt is gone, and the registers, the stack and the rest with it; the program
counter alone is left where it was (`Machine.wiped`).

So a refused load keeps a machine exactly if there were no bytes to load, or if the
machine was wiped already (`Machine.refused_load_keeps_iff`).
-/

import ChipEight.Proofs.Reloading

namespace ChipEight.Machine

variable {c : Config} {random : RandomSource} {m : Machine} {program : Value} {e : LoadError}

/-- The machine reset, with the glyphs in its memory and the program counter where it
was. -/
def wiped (m : Machine) : Machine := { m.reset with memory := glyphMemory m.memory.size }

theorem halt_wiped (m : Machine) : m.wiped.halt = none := rfl

/-- Bytes that do not fit leave the machine wiped. -/
theorem Sound.loadHost_of_not_fits (hc : c.MemoryInRange) (h : Sound c m) {bytes : List UInt8}
    (hb : program.toBytes m.memory.tooMany = .ok bytes)
    (hp : c.memorySize < programStart + bytes.length) :
    m.loadHost program = (m.wiped, .error (.outOfBounds ⟨c.memorySize, c.memorySize⟩)) := by
  have hmin : 0x202 ≤ c.memorySize := hc.1
  have hstart : programStart ≤ m.memory.size := by
    rw [h.size, programStart]
    omega
  simp only [loadHost, hb, Machine.loadProgram_of_not_fits hstart (h.size ▸ hp), h.size, wiped]

/-- **How a load can go:** there are no bytes, or they do not fit, or they are loaded. -/
theorem Sound.loadHost_cases (hc : c.MemoryInRange) (h : Sound c m) (program : Value) :
    (∃ mismatch, m.loadHost program = (m, .error (.notBytes mismatch))) ∨
      m.loadHost program = (m.wiped, .error (.outOfBounds ⟨c.memorySize, c.memorySize⟩)) ∨
        ∃ bytes, m.loadHost program = (loaded c m.random bytes, .ok bytes) := by
  cases hb : program.toBytes m.memory.tooMany with
  | error mismatch => exact .inl ⟨mismatch, by simp only [loadHost, hb]⟩
  | ok bytes =>
    right
    by_cases hfits : programStart + bytes.length ≤ c.memorySize
    · exact .inr ⟨bytes, by simp only [loadHost, hb, h.loadProgram_of_fits hfits]⟩
    · exact .inl (h.loadHost_of_not_fits hc hb (Nat.lt_of_not_le hfits))

/-- What a refused load leaves, by the reason. -/
theorem Sound.loadHost_of_error (hc : c.MemoryInRange) (h : Sound c m)
    (he : (m.loadHost program).2 = .error e) :
    (∃ mismatch, e = .notBytes mismatch) ∧ (m.loadHost program).1 = m ∨
      e = .outOfBounds ⟨c.memorySize, c.memorySize⟩ ∧ (m.loadHost program).1 = m.wiped := by
  obtain ⟨mismatch, hl⟩ | hl | ⟨bytes, hl⟩ := h.loadHost_cases hc program
  · rw [hl] at he ⊢
    obtain rfl := Except.error.inj he
    exact .inl ⟨⟨mismatch, rfl⟩, rfl⟩
  · rw [hl] at he ⊢
    obtain rfl := Except.error.inj he
    exact .inr ⟨rfl, rfl⟩
  · rw [hl] at he
    cases he

/-- **A refused load keeps the machine exactly if there were no bytes** or nothing was
left to wipe. Else the reason is the first address behind the memory, and the machine is
wiped, with no halt any more. -/
theorem refused_load_keeps_iff (hc : c.MemoryInRange) (h : Reachable c random m)
    (he : (m.loadHost program).2 = .error e) :
    ((m.loadHost program).1 = m ↔ (∃ mismatch, e = .notBytes mismatch) ∨ m.wiped = m) ∧
      ((m.loadHost program).1 = m ∨
        e = .outOfBounds ⟨c.memorySize, c.memorySize⟩ ∧ (m.loadHost program).1 = m.wiped ∧
          (m.loadHost program).1.halt = none) := by
  obtain ⟨hmismatch, hl⟩ | ⟨rfl, hl⟩ := (Sound.of_reachable h).loadHost_of_error hc he
  · exact ⟨⟨fun _ => .inl hmismatch, fun _ => hl⟩, .inl hl⟩
  · rw [hl]
    refine ⟨⟨.inr, ?_⟩, .inr ⟨rfl, rfl, m.halt_wiped⟩⟩
    rintro (⟨mismatch, hm⟩ | hm)
    · cases hm
    · exact hm

/-- A machine that has stopped behind an instruction that set a register. -/
def afterReturn : Machine := beforeReturn.step.1

theorem reachable_afterReturn : Reachable { memorySize := 0x204 } .zeros afterReturn :=
  .act .step reachable_beforeReturn

/-- One byte more than its memory takes. -/
def overfull : Value := .bytes [0x60, 0x05, 0x00, 0xEE, 0x00]

theorem refused_overfull :
    (afterReturn.loadHost overfull).2 = .error (.outOfBounds ⟨0x204, 0x204⟩) := by
  have hs := Sound.of_reachable reachable_afterReturn
  rw [hs.loadHost_of_not_fits (by decide) rfl (by decide)]
  rfl

theorem refused_load_keeps_iff_afterReturn :
    Config.MemoryInRange { memorySize := 0x204 } ∧
      afterReturn.halt = some ⟨.stack .underflow, 0x202⟩ ∧
      (afterReturn.loadHost .null).2 = .error (.notBytes .wrongType) ∧
      (afterReturn.loadHost .null).1 = afterReturn ∧
      (afterReturn.loadHost overfull).1.pc = 0x202 ∧
      (afterReturn.loadHost overfull).1.halt = none := by
  have hc : Config.MemoryInRange { memorySize := 0x204 } := by decide
  have hm : afterReturn.halt = some ⟨.stack .underflow, 0x202⟩ := by decide +kernel
  have hnull : (afterReturn.loadHost .null).2 = .error (.notBytes .wrongType) := rfl
  have hkept := (refused_load_keeps_iff hc reachable_afterReturn hnull).1.2 (.inl ⟨_, rfl⟩)
  have hgone : (afterReturn.loadHost overfull).1.halt = none := by
    obtain hl | ⟨-, -, hl⟩ := (refused_load_keeps_iff hc reachable_afterReturn refused_overfull).2
    · exact absurd (congrArg Machine.halt hl) (by decide +kernel)
    · exact hl
  exact ⟨hc, hm, hnull, hkept, by decide +kernel, hgone⟩

/-- **A refused load does not always keep the machine**: one that has stopped runs
again. -/
theorem refused_load_not_atomic : ¬ ∀ (c : Config) (random : RandomSource) (m : Machine)
    (program : Value) (e : LoadError), c.MemoryInRange → Reachable c random m →
      (m.loadHost program).2 = .error e → (m.loadHost program).1 = m := by
  intro h
  have hl := h { memorySize := 0x204 } .zeros afterReturn overfull _ (by decide)
    reachable_afterReturn refused_overfull
  exact absurd (congrArg Machine.halt hl) (by decide +kernel)

end ChipEight.Machine
