/-
# Arithmetic on registers that may be the flag

Ten operations put a result into their first register, and five of them define a flag.
`Opcode.arithmetic?` says what both are in whole numbers, and no register is ruled out: the
two that are named may be one, and each may be the flag. Operands are read before anything
is written, and the flag is written before the result. So the result is always left in its
register, and the flag is what is defined unless the result took its place
(`Machine.Calculated`).

The sum that goes to the index is another matter. Nothing but the flag is written to the
registers, and so the flag is left also when it was the operand
(`Machine.step_addIndex`).
-/

import ChipEight.Proofs.Fault

namespace ChipEight

/-- What an operation makes of the numbers `a` and `b` in its two registers and of the low
byte `k` of its word: its result, and the flag if it defines one. -/
def Opcode.arithmetic? (op : Opcode) (a b k : Int) : Option (Int × Option Int) :=
  match op with
  | .addByte => some ((a + k) % 256, none)
  | .copy => some (b, none)
  | .or => some (Int.lor a b, none)
  | .and => some (Int.land a b, none)
  | .xor => some (Int.xor a b, none)
  | .add => some ((a + b) % 256, some (if 255 < a + b then 1 else 0))
  | .sub => some ((a - b) % 256, some (if b < a then 1 else 0))
  | .shiftRight => some (a / 2, some (a % 2))
  | .subFrom => some ((b - a) % 256, some (if a < b then 1 else 0))
  | .shiftLeft => some (2 * a % 256, some (a / 128))
  | _ => none

namespace Machine

variable {m m' : Machine} {op : Opcode} {f : Fields} {x : Fin 16} {result carry : Int}
  {flag? : Option Int}

/-- The number in a register. -/
def number (m : Machine) (r : Fin 16) : Int := (m.reg r).toNat

theorem number_setReg (m : Machine) (r s : Fin 16) (b : UInt8) :
    (m.setReg r b).number s = if s = r then (b.toNat : Int) else m.number s := by
  unfold number
  split
  next h => rw [h, reg_setReg_self]
  next h => rw [reg_setReg_of_ne m b h]

theorem toNat_flagOf (p : Prop) [Decidable p] :
    ((flagOf (decide p)).toNat : Int) = if p then 1 else 0 := by
  by_cases h : p
  · simp [h, flagOf]
  · simp [h, flagOf]

/-- The second machine has a result in register `x` and, unless that is the flag, the flag
that goes with it; the other registers and the index are those of the first. -/
structure Calculated (m m' : Machine) (x : Fin 16) (result : Int) (flag? : Option Int) :
    Prop where
  index : m'.index = m.index
  number : ∀ r, m'.number r = if r = x then result
    else if r = flag then flag?.getD (m.number r) else m.number r

theorem calculated_setReg (m : Machine) {v : UInt8} (hv : result = v.toNat) :
    Calculated m (m.setReg x v) x result none where
  index := rfl
  number := by
    intro r
    rw [number_setReg, hv, Option.getD_none, ite_self]

theorem calculated_setFlagged (m : Machine) {u v : UInt8} (hu : carry = u.toNat)
    (hv : result = v.toNat) : Calculated m (m.setFlagged u x v) x result (some carry) where
  index := rfl
  number := by
    intro r
    rw [setFlagged, number_setReg, number_setReg, hu, hv, Option.getD_some]

/-- **An arithmetic operation leaves its result and its flag.** -/
theorem execute_arithmetic
    (h : op.arithmetic? (m.number f.x) (m.number f.y) f.nn = some (result, flag?)) :
    ∃ m', m.execute op f = (m', .ok (m.pc + 2)) ∧ Calculated m m' f.x result flag? := by
  have hbyte : (f.nn : Int) = (UInt8.ofNat f.nn).toNat := (Wide.toNat_ofNat f.nn_lt).symm
  cases op <;> cases h
  case addByte =>
    refine ⟨_, rfl, calculated_setReg m ?_⟩
    rw [hbyte]
    exact Wide.add_toNat ..
  case copy =>
    exact ⟨_, rfl, calculated_setReg m rfl⟩
  case or =>
    exact ⟨_, rfl, calculated_setReg m (Wide.lor_toNat ..)⟩
  case and =>
    exact ⟨_, rfl, calculated_setReg m (Wide.land_toNat ..)⟩
  case xor =>
    exact ⟨_, rfl, calculated_setReg m (Wide.xor_toNat ..)⟩
  case add =>
    refine ⟨_, rfl, calculated_setFlagged m ?_ (Wide.add_toNat ..)⟩
    rw [← toNat_flagOf, number, number, Wide.carry_toNat]
  case sub =>
    refine ⟨_, rfl, calculated_setFlagged m ?_ (Wide.sub_toNat ..)⟩
    rw [← toNat_flagOf, number, number, Wide.lt_toNat]
  case shiftRight =>
    exact ⟨_, rfl, calculated_setFlagged m (Wide.mod_two_toNat _) (Wide.div_two_toNat _)⟩
  case subFrom =>
    refine ⟨_, rfl, calculated_setFlagged m ?_ (Wide.sub_toNat ..)⟩
    rw [← toNat_flagOf, number, number, Wide.lt_toNat]
  case shiftLeft =>
    refine ⟨_, rfl, calculated_setFlagged m ?_ (Wide.two_mul_toNat _)⟩
    rw [number, UInt8.toNat_div]
    rfl

/-- **A step that calculates** leaves the result and the flag of its operation. -/
theorem step_arithmetic (hm : m.halt = none) (hop : m.fetched? = some op) :
    let word := m.memory.word m.pc
    let f := Fields.ofWord word
    op.arithmetic? (m.number f.x) (m.number f.y) f.nn = some (result, flag?) →
      m.step.2 = .ran m.pc word ∧ Calculated m m.step.1 f.x result flag? := by
  intro word f h
  obtain ⟨hpc, ho⟩ := fetched?_eq_some.1 hop
  obtain ⟨m', hx, hcalculated⟩ := execute_arithmetic h
  rw [step_of_execute hm hpc rfl ho hx]
  exact ⟨rfl, ⟨hcalculated.index, hcalculated.number⟩⟩

/-- **A step that adds to the index** leaves the flag of the sum, whatever the operand was. -/
theorem step_addIndex (hm : m.halt = none) (hop : m.fetched? = some .addIndex) :
    let word := m.memory.word m.pc
    let total : Int := m.index + m.number (Fields.ofWord word).x
    m.step.2 = .ran m.pc word ∧ m.step.1.index = total % 65536 ∧
      ∀ r, m.step.1.number r
        = if r = flag then (if 0xFFF < total then 1 else 0) else m.number r := by
  intro word total
  obtain ⟨hpc, ho⟩ := fetched?_eq_some.1 hop
  have htotal : ((m.index + (m.reg (Fields.ofWord word).x).toNat : Nat) : Int) = total :=
    Int.natCast_add ..
  have hcarry : decide (0xFFF < m.index + (m.reg (Fields.ofWord word).x).toNat)
      = decide (0xFFF < total) := by
    rw [decide_eq_decide, ← htotal]
    omega
  rw [step_of_execute hm hpc rfl ho rfl]
  refine ⟨rfl, ?_, fun r => ?_⟩
  · rw [← htotal]
    exact Int.natCast_mod _ 65536
  · refine (number_setReg m flag r _).trans ?_
    rw [hcarry, toNat_flagOf]

/-- **Arithmetic with any registers, the flag among them.** In every reachable machine that
runs, on plain numbers as on bytes, an arithmetic operation leaves its result in its first
register and its flag in the last, unless that is the first one too; what is added to the
index is taken modulo `2 ^ 16`, and the flag says whether the sum is above `0xFFF`, also
when it was the operand. No other register changes. -/
theorem arithmetic_any_registers {c : Config} {random : RandomSource} (hc : c.MemoryInRange)
    (h : Reachable c random m) (hm : m.halt = none) (hop : m.fetched? = some op) :
    let word := m.memory.word m.pc
    let f := Fields.ofWord word
    m.wide.step = .ok (m.step.1.wide, m.step.2.wide) ∧
      (∀ result flag?,
        op.arithmetic? (m.number f.x) (m.number f.y) f.nn = some (result, flag?) →
          m.step.2 = .ran m.pc word ∧ m.step.1.index = m.index ∧
            ∀ r, m.step.1.number r = if r = f.x then result
              else if r = flag then flag?.getD (m.number r) else m.number r) ∧
      (op = .addIndex →
        m.step.2 = .ran m.pc word ∧
          m.step.1.index = ((m.index : Int) + m.number f.x) % 65536 ∧
          ∀ r, m.step.1.number r = if r = flag
            then (if 0xFFF < (m.index : Int) + m.number f.x then 1 else 0) else m.number r) := by
  intro word f
  refine ⟨(Sound.of_reachable h).wide_step hc, fun result flag? hr => ?_, ?_⟩
  · obtain ⟨hran, hcalculated⟩ := step_arithmetic hm hop hr
    exact ⟨hran, hcalculated.index, hcalculated.number⟩
  · rintro rfl
    exact step_addIndex hm hop

/-- A machine about to add the flag register to itself. -/
def beforeDoubling : Machine :=
  ((new {} .zeros).act
    (.load (.bytes [0x6F, 0xC8, 0x8F, 0xF4, 0xAF, 0xFF, 0xFF, 0x1E]))).act .step

/-- The same one, about to add the flag register to the index. -/
def beforeIndexSum : Machine := (beforeDoubling.act .step).act .step

theorem arithmetic_any_registers_flag :
    Config.MemoryInRange {} ∧ Reachable {} .zeros beforeDoubling ∧
      beforeDoubling.number flag = 200 ∧ beforeDoubling.step.1.number flag = 144 ∧
      Reachable {} .zeros beforeIndexSum ∧ beforeIndexSum.index = 0xFFF ∧
      beforeIndexSum.step.1.index = 0xFFF + 144 ∧ beforeIndexSum.step.1.number flag = 1 := by
  have hc : Config.MemoryInRange {} := by decide
  have hdoubling : Reachable {} .zeros beforeDoubling := .act .step (.act _ .new)
  have hsum : Reachable {} .zeros beforeIndexSum := .act .step (.act .step hdoubling)
  have hfacts : beforeDoubling.halt = none ∧ beforeDoubling.fetched? = some .add ∧
      Fields.ofWord (beforeDoubling.memory.word beforeDoubling.pc) = Fields.ofWord 0x8FF4 ∧
      beforeDoubling.number flag = 200 := by
    decide +kernel
  have hfacts' : beforeIndexSum.halt = none ∧ beforeIndexSum.fetched? = some .addIndex ∧
      Fields.ofWord (beforeIndexSum.memory.word beforeIndexSum.pc) = Fields.ofWord 0xFF1E ∧
      beforeIndexSum.index = 0xFFF ∧ beforeIndexSum.number flag = 144 := by
    decide +kernel
  obtain ⟨hm, hop, hf, hflag⟩ := hfacts
  obtain ⟨hm', hop', hf', hindex, hflag'⟩ := hfacts'
  obtain ⟨-, hcalculated, -⟩ := arithmetic_any_registers hc hdoubling hm hop
  obtain ⟨-, -, haddIndex⟩ := arithmetic_any_registers hc hsum hm' hop'
  rw [hf] at hcalculated
  rw [hf'] at haddIndex
  obtain ⟨-, -, hdoubled⟩ := hcalculated _ _ rfl
  obtain ⟨-, hadded, hcarry⟩ := haddIndex rfl
  refine ⟨hc, hdoubling, hflag, ?_, hsum, hindex, ?_, ?_⟩
  · refine (hdoubled flag).trans ?_
    show (beforeDoubling.number flag + beforeDoubling.number flag) % 256 = 144
    rw [hflag]
    rfl
  · have hnumber : beforeIndexSum.number (Fields.ofWord 0xFF1E).x = 144 := hflag'
    rw [hindex, hnumber] at hadded
    omega
  · have hnumber : beforeIndexSum.number (Fields.ofWord 0xFF1E).x = 144 := hflag'
    refine (hcarry flag).trans ?_
    rw [hindex, hnumber]
    rfl

end Machine
end ChipEight
