/-
# Registers and digits in memory

Three operations put bytes where the index points, or fetch them from there. Storing the
first registers leaves each of them in its own byte and no other byte changed
(`Machine.stored_of_ran`); loading them takes each from its byte and leaves the memory
(`Machine.loaded_of_ran`). Both leave the index behind the last byte. Between the two a
byte keeps its value as long as no step stores at it (`Machine.byte_run`), so registers
that are loaded from where they were stored are what they were
(`Machine.reg_load_of_stored`), however long the run in between.

The digits of a register are stored as three bytes, and they make up its number
(`Machine.decimal_of_ran`).
-/

import ChipEight.Proofs.Effects

namespace ChipEight.Machine

variable {m : Machine} {pc word : Nat} {x : Fin 16}

/-- The first registers up to `x` have been stored at the index. -/
structure Stored (x : Fin 16) (m m' : Machine) : Prop where
  fits : m.index + x < m.memory.size
  size : m'.memory.size = m.memory.size
  bytes : ∀ r ≤ x, m'.memory.byte (m.index + r) = m.reg r
  others : ∀ address, ¬ (m.index ≤ address ∧ address ≤ m.index + x) →
    m'.memory.byte address = m.memory.byte address
  index : m'.index = m.index + x + 1

/-- The first registers up to `x` have been loaded from the index. -/
structure Loaded (x : Fin 16) (m m' : Machine) : Prop where
  fits : m.index + x < m.memory.size
  registers : ∀ r ≤ x, m'.reg r = m.memory.byte (m.index + r)
  others : ∀ r, x < r → m'.reg r = m.reg r
  memory : m'.memory = m.memory
  index : m'.index = m.index + x + 1

/-- Three digits that make up the number in register `x` have been stored at the index,
and nothing else has changed but that the machine has gone on. -/
structure StoredDecimal (x : Fin 16) (m m' : Machine) : Prop where
  fits : m.index + 2 < m.memory.size
  size : m'.memory.size = m.memory.size
  digits : m'.memory.byte m.index ≤ 9 ∧ m'.memory.byte (m.index + 1) ≤ 9 ∧
    m'.memory.byte (m.index + 2) ≤ 9
  number : 100 * (m'.memory.byte m.index).toNat + 10 * (m'.memory.byte (m.index + 1)).toNat
    + (m'.memory.byte (m.index + 2)).toNat = (m.reg x).toNat
  others : ∀ address, ¬ (m.index ≤ address ∧ address ≤ m.index + 2) →
    m'.memory.byte address = m.memory.byte address
  rest : m' = { m with memory := m'.memory, pc := m.pc + 2, cycles := m.cycles + 1 }

/-- **A step that stores registers** puts each into its byte. -/
theorem stored_of_ran (h : m.step.2 = .ran pc word) (ho : Opcode.ofWord? word = some .store) :
    Stored (Fields.ofWord word).x m m.step.1 := by
  obtain ⟨m', next, hx, hs⟩ := execute_of_ran_op h ho
  rw [hs]
  simp only [execute] at hx
  split at hx
  · cases hx
  next memory hl =>
    obtain ⟨rfl, -⟩ := Prod.mk.inj hx
    have hfits := Memory.fits_of_load hl
    rw [length_firstRegs] at hfits
    refine ⟨by omega, Memory.size_load hl, ?_, ?_, rfl⟩
    · intro r hr
      have hlt : (r : Nat) < (m.firstRegs (Fields.ofWord word).x).length := by
        rw [length_firstRegs]
        exact Nat.lt_succ_of_le hr
      exact (Memory.byte_load_add hl hlt).trans (getD_firstRegs m hr)
    · intro address houtside
      refine Memory.byte_load_of_outside hl ?_
      rw [length_firstRegs]
      omega

/-- **A step that loads registers** takes each from its byte. -/
theorem loaded_of_ran (h : m.step.2 = .ran pc word) (ho : Opcode.ofWord? word = some .load) :
    Loaded (Fields.ofWord word).x m m.step.1 := by
  obtain ⟨m', next, hx, hs⟩ := execute_of_ran_op h ho
  rw [hs]
  simp only [execute] at hx
  split at hx
  · cases hx
  next bytes hr =>
    obtain ⟨rfl, -⟩ := Prod.mk.inj hx
    obtain ⟨hfits, hbytes⟩ := Memory.readBlock_eq_ok.1 hr
    have hlength : bytes.length = (Fields.ofWord word).x + 1 := Memory.length_readBlock hr
    have hmemory : (m.setFirstRegs bytes).memory = m.memory := by rw [setFirstRegs]
    have hregisters : ∀ r ≤ (Fields.ofWord word).x,
        (m.setFirstRegs bytes).reg r = m.memory.byte (m.index + r) := by
      intro r hle
      have hlt : (r : Nat) < (Fields.ofWord word).x + 1 := Nat.lt_succ_of_le hle
      rw [reg_setFirstRegs_of_lt m (hlength ▸ hlt), ← hbytes, Memory.getD_block hlt hfits]
    have hothers : ∀ r, (Fields.ofWord word).x < r → (m.setFirstRegs bytes).reg r = m.reg r :=
      fun r hlt => reg_setFirstRegs_of_le m (hlength ▸ hlt)
    -- the table of registers is not to be unfolded where the index is moved
    generalize m.setFirstRegs bytes = n at hmemory hregisters hothers
    exact ⟨by omega, hregisters, hothers, hmemory, rfl⟩

/-- The three digits of a byte are digits, and make it up. -/
theorem toNat_digits (v : UInt8) :
    (v / 100 ≤ 9 ∧ v / 10 % 10 ≤ 9 ∧ v % 10 ≤ 9) ∧
      100 * (v / 100).toNat + 10 * (v / 10 % 10).toNat + (v % 10).toNat = v.toNat := by
  have hv := v.toNat_lt
  simp only [UInt8.le_iff_toNat_le, UInt8.toNat_div, UInt8.toNat_mod, UInt8.reduceToNat]
  omega

/-- **A step that stores a number** puts its digits into three bytes. -/
theorem decimal_of_ran (h : m.step.2 = .ran pc word)
    (ho : Opcode.ofWord? word = some .decimal) :
    StoredDecimal (Fields.ofWord word).x m m.step.1 := by
  obtain ⟨m', next, hx, hs⟩ := execute_of_ran_op h ho
  rw [hs]
  simp only [execute] at hx
  split at hx
  · cases hx
  next memory hl =>
    obtain ⟨rfl, hnext⟩ := Prod.mk.inj hx
    obtain rfl := Except.ok.inj hnext
    generalize hv : m.reg (Fields.ofWord word).x = v at hl
    have hfits : m.index + 3 ≤ m.memory.size := Memory.fits_of_load hl
    have hdigit (i : Nat) (hi : i < 3) :
        memory.byte (m.index + i) = [v / 100, v / 10 % 10, v % 10].getD i 0 :=
      Memory.byte_load_add hl hi
    have hhundreds : memory.byte m.index = v / 100 := hdigit 0 (by omega)
    have htens : memory.byte (m.index + 1) = v / 10 % 10 := hdigit 1 (by omega)
    have hones : memory.byte (m.index + 2) = v % 10 := hdigit 2 (by omega)
    obtain ⟨hdigits, hnumber⟩ := toNat_digits v
    rw [← hhundreds, ← htens, ← hones] at hdigits hnumber
    refine ⟨by omega, Memory.size_load hl, hdigits, hnumber.trans (congrArg _ hv.symm), ?_, rfl⟩
    intro address houtside
    refine Memory.byte_load_of_outside hl ?_
    simp only [List.length_cons, List.length_nil]
    omega

/-- **Registers loaded from where they were stored are what they were**, if none of the
steps in between stores at one of their bytes. -/
theorem reg_load_of_stored {m m₁ m₂ m₃ : Machine} {moves : List Move} (hstored : Stored x m m₁)
    (hrun : m₁.run moves = m₂) (hloaded : Loaded x m₂ m₃) (hindex : m₂.index = m.index)
    (hkept : ∀ r ≤ x, ∀ n, moves[n]? = some .step →
      (m₁.run (moves.take n)).storesAt (m.index + r) = false) :
    ∀ r ≤ x, m₃.reg r = m.reg r := by
  intro r hr
  calc m₃.reg r
    _ = m₂.memory.byte (m.index + r) := by rw [hloaded.registers r hr, hindex]
    _ = m₁.memory.byte (m.index + r) := by rw [← hrun, byte_run (hkept r hr)]
    _ = m.reg r := hstored.bytes r hr

/-- **Transfers lose nothing.** A step that stores the first registers leaves each in its
byte, changes no other byte and leaves the index behind the last. After any run of which
no step stores at these bytes, a step that loads as many registers from there makes them
what they were, and changes neither the others nor the memory. A step that stores a number
leaves three digits that make it up, and changes nothing else. -/
theorem transfers_lose_nothing (m : Machine) (pc word : Nat) (h : m.step.2 = .ran pc word) :
    let x := (Fields.ofWord word).x
    (Opcode.ofWord? word = some .store →
      Stored x m m.step.1 ∧
        ∀ moves : List Move,
          (∀ r ≤ x, ∀ n, moves[n]? = some .step →
            (m.step.1.run (moves.take n)).storesAt (m.index + r) = false) →
          let m' := m.step.1.run moves
          ∀ pc' word', m'.step.2 = .ran pc' word' → Opcode.ofWord? word' = some .load →
            (Fields.ofWord word').x = x → m'.index = m.index →
              (∀ r ≤ x, m'.step.1.reg r = m.reg r) ∧
                (∀ r, x < r → m'.step.1.reg r = m'.reg r) ∧
                m'.step.1.memory = m'.memory ∧ m'.step.1.index = m.index + x + 1) ∧
      (Opcode.ofWord? word = some .decimal → StoredDecimal x m m.step.1) := by
  intro x
  refine ⟨fun hstore => ?_, decimal_of_ran h⟩
  have hstored : Stored x m m.step.1 := stored_of_ran h hstore
  refine ⟨hstored, ?_⟩
  intro moves hkept m' pc' word' hran hload hx hindex
  have hloaded : Loaded x m' m'.step.1 := hx ▸ loaded_of_ran hran hload
  refine ⟨reg_load_of_stored hstored rfl hloaded hindex hkept, hloaded.others, hloaded.memory, ?_⟩
  rw [hloaded.index, hindex]

/-- A machine about to store three registers in the last bytes of its memory. -/
def beforeStoring : Machine :=
  (new { memorySize := 0x21A } .zeros).act
    (.load (.bytes [0x60, 0x0B, 0x61, 0xC8, 0x62, 0xFF, 0xA2, 0x17, 0xF2, 0x55,
      0xA2, 0x14, 0xF1, 0x33, 0x61, 0x00, 0xA2, 0x17, 0xF2, 0x65]))
    |>.run (.replicate 4 .step)

/-- The moves by which it takes the digits of one of them and then clears that, before it
loads all three again. -/
def untilLoading : List Move := [.step, .step, .tick, .step, .step]

theorem transfers_lose_nothing_atTheEnd :
    beforeStoring.step.2 = .ran 0x208 0xF255 ∧
      beforeStoring.step.1.memory.byte 0x219 = 0xFF ∧
      (beforeStoring.step.1.run untilLoading).reg 1 = 0 ∧
      (beforeStoring.step.1.run untilLoading).step.1.reg 1 = 0xC8 ∧
      StoredDecimal 1 beforeStoring.step.1.step.1 beforeStoring.step.1.step.1.step.1 := by
  have hstart : beforeStoring.step.2 = .ran 0x208 0xF255 ∧ beforeStoring.index = 0x217 ∧
      beforeStoring.reg 1 = 0xC8 ∧ beforeStoring.reg 2 = 0xFF ∧
      beforeStoring.step.1.step.1.step.2 = .ran 0x20C 0xF133 := by
    decide +kernel
  have hend : (beforeStoring.step.1.run untilLoading).step.2 = .ran 0x212 0xF265 ∧
      (beforeStoring.step.1.run untilLoading).index = 0x217 ∧
      (beforeStoring.step.1.run untilLoading).reg 1 = 0 ∧
      ∀ r : Fin 16, r ≤ 2 → ∀ n < 5, untilLoading[n]? = some .step →
        (beforeStoring.step.1.run (untilLoading.take n)).storesAt (0x217 + r) = false := by
    decide +kernel
  obtain ⟨hran, hindex, hreg₁, hreg₂, hdecimal⟩ := hstart
  obtain ⟨hload, hindex', hcleared, hkept⟩ := hend
  obtain ⟨htransfer, -⟩ := transfers_lose_nothing beforeStoring _ _ hran
  obtain ⟨hstored, hround⟩ := htransfer rfl
  obtain ⟨-, hdigits⟩ := transfers_lose_nothing beforeStoring.step.1.step.1 _ _ hdecimal
  obtain ⟨hback, -⟩ := hround untilLoading (fun r hr n hn => by
    rw [hindex]
    exact hkept r hr n (List.getElem?_eq_some_iff.1 hn).1 hn) _ _ hload rfl rfl
    (hindex'.trans hindex.symm)
  have hlast := hstored.bytes 2 (by decide)
  rw [hindex, hreg₂] at hlast
  exact ⟨hran, hlast, hcleared, (hback 1 (by decide)).trans hreg₁, hdigits rfl⟩

end ChipEight.Machine
