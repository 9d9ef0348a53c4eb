/-
# What a load leaves

A load first resets the machine and puts the glyphs in. A program that fits behind them
is then loaded (`Machine.loadProgram_of_fits`): the memory is its image, and the program
counter is at its start. One that does not fit is refused at the first address behind
the memory (`Machine.loadProgram_of_not_fits`).
-/

import ChipEight.Machine.Host
import Mathlib.Data.List.GetD

namespace ChipEight.Machine

variable {m : Machine} {size : Nat} {program : List UInt8}

/-- A memory with a program in it: the glyphs, zeros up to the program, the program, and
zeros up to the end. -/
def image (size : Nat) (program : List UInt8) : List UInt8 :=
  Font.glyphs ++ .replicate (programStart - Font.glyphs.length) 0 ++ program
    ++ .replicate (size - (programStart + program.length)) 0

/-- The glyphs end below the program. -/
theorem length_glyphs_le : Font.glyphs.length ≤ programStart := by decide

theorem length_image (h : programStart + program.length ≤ size) :
    (image size program).length = size := by
  have := length_glyphs_le
  simp only [image, List.length_append, List.length_replicate]
  omega

theorem byte_image (size : Nat) (program : List UInt8) (i : Nat) :
    (Memory.mk (image size program).toArray).byte (programStart + i) = program.getD i 0 := by
  have hbelow : (Font.glyphs ++ List.replicate (programStart - Font.glyphs.length) 0).length
      = programStart := by
    rw [List.length_append, List.length_replicate]
    exact Nat.add_sub_cancel' length_glyphs_le
  rw [Memory.byte, Array.getD_eq_getD_getElem?, List.getElem?_toArray, ← List.getD_eq_getElem?_getD,
    image, List.append_assoc _ program, List.getD_append_right _ _ _ _ (by omega), hbelow,
    Nat.add_sub_cancel_left]
  by_cases hi : i < program.length
  · rw [List.getD_append _ _ _ _ hi]
  · have hle : program.length ≤ i := Nat.le_of_not_lt hi
    rw [List.getD_append_right _ _ _ _ hle, List.getD_eq_default _ _ hle]
    exact List.getElem?_getD_replicate_default_eq ..

/-- The memory after a reset, with the glyphs in it. -/
def glyphMemory (size : Nat) : Memory :=
  ⟨(Font.glyphs ++ .replicate (size - Font.glyphs.length) 0).toArray⟩

theorem size_glyphMemory (h : programStart ≤ size) : (glyphMemory size).size = size := by
  have := length_glyphs_le
  simp only [glyphMemory, Memory.size, List.size_toArray, List.length_append, List.length_replicate]
  omega

theorem load_glyphs (h : programStart ≤ size) :
    (Memory.blank size).load Font.address Font.glyphs = .ok (glyphMemory size) := by
  have hfits : Font.address + Font.glyphs.length ≤ size := by
    rw [Font.address, Nat.zero_add]
    exact Nat.le_trans length_glyphs_le h
  rw [Memory.load_eq, Memory.refusal?_eq_none.2 ((Memory.size_blank size).symm ▸ hfits)]
  refine congrArg (fun cells => Except.ok (Memory.mk cells)) (Array.toList_inj.1 ?_)
  rw [Memory.toList_overlay]
  simp [Memory.blank, Font.address]

theorem load_glyphMemory (h : programStart + program.length ≤ size) :
    (glyphMemory size).load programStart program = .ok ⟨(image size program).toArray⟩ := by
  have hglyphs := length_glyphs_le
  have hsize := size_glyphMemory (Nat.le_trans (Nat.le_add_right ..) h)
  have hbelow : min (programStart - Font.glyphs.length) (size - Font.glyphs.length)
      = programStart - Font.glyphs.length := by omega
  have habove : size - Font.glyphs.length - (programStart + program.length - Font.glyphs.length)
      = size - (programStart + program.length) := by omega
  rw [Memory.load_eq, hsize, Memory.refusal?_eq_none.2 h]
  refine congrArg (fun cells => Except.ok (Memory.mk cells)) (Array.toList_inj.1 ?_)
  rw [Memory.toList_overlay]
  simp only [glyphMemory, image, List.take_append, List.drop_append, List.take_replicate,
    List.drop_replicate, List.take_of_length_le hglyphs,
    List.drop_of_length_le (Nat.le_trans hglyphs (Nat.le_add_right ..)), List.nil_append, hbelow,
    habove]

/-- **A program that fits is loaded.** -/
theorem loadProgram_of_fits (h : programStart + program.length ≤ m.memory.size) :
    m.loadProgram program
      = ({ m.reset with memory := ⟨(image m.memory.size program).toArray⟩, pc := programStart },
        .ok ()) := by
  have hclear : m.reset.memory = .blank m.memory.size := rfl
  unfold loadProgram
  simp only [hclear, load_glyphs (Nat.le_trans (Nat.le_add_right ..) h), load_glyphMemory h]

/-- **A program that does not fit is refused.** -/
theorem loadProgram_of_not_fits (hsize : programStart ≤ m.memory.size)
    (h : m.memory.size < programStart + program.length) :
    m.loadProgram program
      = ({ m.reset with memory := glyphMemory m.memory.size },
        .error ⟨m.memory.size, m.memory.size⟩) := by
  have hclear : m.reset.memory = .blank m.memory.size := rfl
  have hrefuse : (glyphMemory m.memory.size).load programStart program
      = .error ⟨m.memory.size, m.memory.size⟩ := by
    have hmax : max (programStart : Int) m.memory.size = m.memory.size := by omega
    rw [Memory.load_eq, size_glyphMemory hsize, Memory.refusal?, if_pos h, hmax]
    rfl
  unfold loadProgram
  simp only [hclear, load_glyphs hsize, hrefuse]

/-- **Whatever is loaded, the machine is reset** but for its memory and program counter. -/
theorem exists_loadProgram (m : Machine) (program : List UInt8) :
    ∃ memory pc, (m.loadProgram program).1 = { m.reset with memory := memory, pc := pc } ∧
      memory.size = m.memory.size ∧ (pc = m.pc ∨ pc = programStart) := by
  have hclear : m.reset.memory.size = m.memory.size := Memory.size_clear _
  unfold loadProgram
  cases hg : m.reset.memory.load Font.address Font.glyphs with
  | error e => exact ⟨m.reset.memory, m.pc, by simp only [hg]; rfl, hclear, .inl rfl⟩
  | ok glyphs =>
    have hs := (Memory.size_load hg).trans hclear
    cases hp : glyphs.load programStart program with
    | error e => exact ⟨glyphs, m.pc, by simp only [hg, hp]; rfl, hs, .inl rfl⟩
    | ok memory =>
      exact ⟨memory, programStart, by simp only [hg, hp], (Memory.size_load hp).trans hs, .inr rfl⟩

theorem loadHost_bytes (m : Machine) (program : List UInt8) :
    (m.loadHost (.bytes program)).1 = (m.loadProgram program).1 := by
  simp only [loadHost, Value.toBytes]
  rcases m.loadProgram program with ⟨m', _ | _⟩ <;> rfl

end ChipEight.Machine
