/-
# How far the index register goes

Sixteen bits hold the index of every reachable machine if its memory has fewer than
`2 ^ 16` bytes, and only then. An addition to the index cuts
it down to sixteen bits, but a store or a load of registers leaves it behind their
last byte, and behind the last byte of the largest memory is `2 ^ 16`.

`Machine.climb` is a program that gets there. It adds 255 to the index and stores
one register, over and over; after `k` rounds the index is at `256 * k`
(`Machine.climbing_climbed`), and the bytes it stores miss the program.
-/

import ChipEight.Proofs.Invariant
import ChipEight.Proofs.Loading
import Mathlib.Logic.Function.Iterate

namespace ChipEight.Machine

variable {c : Config} {random : RandomSource} {m : Machine} {pc index : Nat}

/-- A program that moves the index up by 256 in each round of a loop. -/
def climb : List UInt8 := [
  0x60, 0xFF,
  0xF0, 0x1E,
  0xF0, 0x55,
  0x12, 0x02]

/-- The machine runs the program in a memory of the largest size. -/
structure Running (m : Machine) (pc : Nat) : Prop where
  halt : m.halt = none
  size : m.memory.size = 0x10000
  code : ∀ i, i < 8 → m.memory.byte (programStart + i) = climb.getD i 0
  pc : m.pc = pc

/-- The machine is past the first instruction of the program. -/
structure Climbing (m : Machine) (pc index : Nat) : Prop extends Running m pc where
  first : m.reg first = 0xFF
  index : m.index = index

theorem Running.word (h : Running m pc) (i : Nat) (hi : i + 1 < 8) :
    m.memory.word (programStart + i)
      = 256 * (climb.getD i 0).toNat + (climb.getD (i + 1) 0).toNat := by
  rw [Memory.word, h.code i (by omega), Nat.add_assoc, h.code (i + 1) hi]

theorem Running.step (h : Running m pc) (i word : Nat) (op : Opcode) {next : Nat} {m' : Machine}
    (hi : i + 1 < 8) (hpc : pc = programStart + i)
    (hw : 256 * (climb.getD i 0).toNat + (climb.getD (i + 1) 0).toNat = word)
    (ho : Opcode.ofWord? word = some op)
    (hx : m.execute op (Fields.ofWord word) = (m', .ok next)) :
    m.step.1 = { m' with pc := next, cycles := m'.cycles + 1 } := by
  have hfit : m.pc + 2 ≤ m.memory.size := by
    rw [h.pc, h.size, hpc, programStart]
    omega
  have hword : m.memory.word m.pc = word := by rw [h.pc, hpc, h.word i hi, hw]
  rw [step_of_execute h.halt hfit hword ho hx]

namespace Climbing

/-- The first instruction of a round adds 255 to the index. -/
theorem add (h : Climbing m 0x202 index) (hi : index + 255 ≤ 0xFFFF) :
    Climbing m.step.1 0x204 (index + 255) := by
  rw [h.step 2 0xF01E .addIndex (by decide) rfl rfl rfl rfl]
  refine { h with first := ?first, pc := ?pc, index := ?index }
  case first => exact (reg_setReg_of_ne m _ (by decide)).trans h.first
  case pc =>
    show m.pc + 2 = 0x204
    rw [h.pc]
  case index =>
    show (m.index + (m.reg Machine.first).toNat) % 65536 = index + 255
    rw [h.index, h.first]
    show (index + 255) % 65536 = index + 255
    omega

/-- The second one stores a byte, which misses the program. -/
theorem store (h : Climbing m 0x204 index) (hi : index < 0x10000)
    (hmiss : index < programStart ∨ programStart + 8 ≤ index) :
    Climbing m.step.1 0x206 (index + 1) := by
  have hlen : (m.firstRegs Machine.first).length = 1 := length_firstRegs ..
  have hfit : m.index + (m.firstRegs Machine.first).length ≤ m.memory.size := by
    rw [hlen, h.index, h.size]
    omega
  obtain ⟨memory, hl, hs, hb⟩ := Memory.load_of_fits hfit
  have hx : m.execute .store (Fields.ofWord (0xF055 : Nat))
      = ({ m with memory := memory, index := m.index + 0 + 1 }, .ok (m.pc + 2)) := by
    simp only [execute, show (Fields.ofWord (0xF055 : Nat)).x = Machine.first from rfl, hl]
    rfl
  rw [h.step 4 0xF055 .store (by decide) rfl rfl rfl hx]
  refine { h with size := hs.trans h.size, code := fun i hi' => ?code, pc := ?pc, index := ?index }
  case code =>
    rw [hlen, h.index] at hb
    show memory.byte _ = _
    rw [hb, if_neg (by omega), h.code i hi']
  case pc =>
    show m.pc + 2 = 0x206
    rw [h.pc]
  case index =>
    show m.index + 0 + 1 = index + 1
    rw [h.index]

/-- The third one goes back. -/
theorem jump (h : Climbing m 0x206 index) : Climbing m.step.1 0x202 index := by
  rw [h.step 6 0x1202 .jump (by decide) rfl rfl rfl rfl]
  exact { h with pc := rfl }

/-- A round moves the index up by 256. -/
theorem round {k : Nat} (h : Climbing m 0x202 (256 * k)) (hk : k < 255) :
    Climbing m.step.1.step.1.step.1 0x202 (256 * (k + 1)) := by
  have ha := h.add (by omega)
  have hs := ha.store (by omega) (by rw [programStart]; omega)
  exact hs.jump

/-- The last store leaves the index behind the memory. -/
theorem last (h : Climbing m 0x202 (256 * 255)) : m.step.1.step.1.index = 0x10000 :=
  ((h.add (by decide)).store (by decide) (by decide)).index

end Climbing

/-- The machine after loading the program and `n` steps. -/
def climbed (c : Config) (random : RandomSource) (n : Nat) : Machine :=
  (fun m => m.act .step)^[n] ((new c random).act (.load (.bytes climb)))

theorem climbed_succ (n : Nat) : climbed c random (n + 1) = (climbed c random n).step.1 :=
  Function.iterate_succ_apply' ..

theorem reachable_climbed (c : Config) (random : RandomSource) (n : Nat) :
    Reachable c random (climbed c random n) := by
  induction n with
  | zero => exact .act (.load (.bytes climb)) .new
  | succ n ih => exact climbed_succ n ▸ .act .step ih

theorem running_climbed (hc : c.memorySize = 0x10000) (random : RandomSource) :
    Running (climbed c random 0) 0x200 ∧ (climbed c random 0).index = 0 := by
  have hsize : (new c random).memory.size = 0x10000 := (Memory.size_blank _).trans hc
  have hfit : programStart + climb.length ≤ (new c random).memory.size := by
    rw [hsize]
    decide
  have hm : climbed c random 0 = ((new c random).loadProgram climb).1 := loadHost_bytes ..
  rw [hm, loadProgram_of_fits hfit]
  exact ⟨⟨rfl, (length_image hfit).trans hsize, fun i _ => byte_image _ climb i, rfl⟩, rfl⟩

/-- **After `k` rounds the index is at `256 * k`.** -/
theorem climbing_climbed (hc : c.memorySize = 0x10000) {k : Nat} (hk : k ≤ 255) :
    Climbing (climbed c random (3 * k + 1)) 0x202 (256 * k) := by
  induction k with
  | zero =>
    obtain ⟨h, hi⟩ := running_climbed hc random
    rw [climbed_succ, h.step 0 0x60FF .loadByte (by decide) rfl rfl rfl rfl]
    refine ⟨{ h with pc := ?pc }, reg_setReg_self .., hi⟩
    show (climbed c random 0).pc + 2 = 0x202
    rw [h.pc]
  | succ k ih =>
    have hn : 3 * (k + 1) + 1 = 3 * k + 1 + 1 + 1 + 1 := by omega
    rw [hn, climbed_succ, climbed_succ, climbed_succ]
    exact (ih (by omega)).round (by omega)

/-- **The largest memory lets the index out of sixteen bits.** -/
theorem index_climbed (hc : c.memorySize = 0x10000) (random : RandomSource) :
    (climbed c random 768).index = 0x10000 := by
  have hn : 768 = 3 * 255 + 1 + 1 + 1 := rfl
  rw [hn, climbed_succ, climbed_succ]
  exact (climbing_climbed hc (Nat.le_refl 255)).last

/-- **Sixteen bits hold the index exactly if the memory is not of the largest
size.** -/
theorem index_le_iff (hc : c.MemoryInRange) (random : RandomSource) :
    (∀ m, Reachable c random m → m.index ≤ 0xFFFF) ↔ c.memorySize < 0x10000 := by
  have hmax : c.memorySize ≤ 0x10000 := hc.2
  constructor
  · intro h
    refine Nat.lt_of_le_of_ne hmax fun he => ?_
    have := h _ (reachable_climbed c random 768)
    have := index_climbed he random
    omega
  · intro h m hm
    have := (Sound.of_reachable hm).index
    omega

theorem index_le_iff_default :
    Config.MemoryInRange {} ∧ ∀ m, Reachable {} .zeros m → m.index ≤ 0xFFFF :=
  ⟨by decide, (index_le_iff (by decide) .zeros).2 (by decide)⟩

/-- **The index is no register of sixteen bits**: in the largest memory the program
moves it out of them. -/
theorem index_not_word : ¬ ∀ (c : Config) (random : RandomSource) (m : Machine),
    c.MemoryInRange → Reachable c random m → m.index ≤ 0xFFFF := by
  intro h
  have hle := h { memorySize := 0x10000 } .zeros (climbed _ _ 768) (by decide)
    (reachable_climbed _ _ 768)
  rw [index_climbed rfl .zeros] at hle
  exact absurd hle (by decide)

end ChipEight.Machine
