/-
# Bytes as numbers

What the operations of bytes are on plain integers: sums and differences are cut down
to eight bits, comparisons and bitwise operations are those of the numbers. A byte
masks any integer to a byte (`Wide.land_byte`), for a mask sees no more of it than the bits
below its own highest (`Wide.land_eq`).
-/

import Mathlib.Data.Int.Bitwise

namespace ChipEight.Wide

variable (a b : UInt8)

theorem toNat_inj : (a.toNat : Int) = b.toNat ↔ a = b := by
  rw [Int.natCast_inj, UInt8.toNat_inj]

theorem beq_toNat : ((a.toNat : Int) == b.toNat) = (a == b) := by
  rw [Bool.eq_iff_iff, beq_iff_eq, beq_iff_eq, toNat_inj]

theorem bne_toNat : ((a.toNat : Int) != b.toNat) = (a != b) := by
  rw [bne, bne, beq_toNat]

theorem lt_toNat : decide ((a.toNat : Int) < b.toNat) = decide (a < b) := by
  rw [decide_eq_decide, Int.ofNat_lt, UInt8.lt_iff_toNat_lt]

theorem carry_toNat :
    decide (255 < (a.toNat : Int) + b.toNat) = decide (255 < a.toNat + b.toNat) := by
  rw [decide_eq_decide]
  omega

theorem add_toNat : ((a.toNat : Int) + b.toNat) % 256 = (a + b).toNat := by
  rw [UInt8.toNat_add]
  omega

theorem sub_toNat : ((a.toNat : Int) - b.toNat) % 256 = (a - b).toNat := by
  have ha := a.toNat_lt
  have hb := b.toNat_lt
  rw [UInt8.toNat_sub]
  omega

theorem lor_toNat : Int.lor a.toNat b.toNat = (a ||| b).toNat := by
  rw [UInt8.toNat_or]
  rfl

theorem land_toNat : Int.land a.toNat b.toNat = (a &&& b).toNat := by
  rw [UInt8.toNat_and]
  rfl

theorem xor_toNat : Int.xor a.toNat b.toNat = (a ^^^ b).toNat := by
  rw [UInt8.toNat_xor]
  rfl

theorem div_two_toNat : (a.toNat : Int) / 2 = (a / 2).toNat := by
  rw [UInt8.toNat_div]
  rfl

theorem mod_two_toNat : (a.toNat : Int) % 2 = (a % 2).toNat := by
  rw [UInt8.toNat_mod]
  rfl

theorem two_mul_toNat : 2 * (a.toNat : Int) % 256 = (2 * a).toNat := by
  rw [UInt8.toNat_mul]
  show 2 * (a.toNat : Int) % 256 = (2 * a.toNat % 256 : Nat)
  omega

theorem top_toNat : (a.toNat : Int) / 128 % 2 = (a / 128).toNat := by
  have ha := a.toNat_lt
  rw [UInt8.toNat_div]
  show (a.toNat : Int) / 128 % 2 = (a.toNat / 128 : Nat)
  omega

theorem toNat_ofNat {n : Nat} (h : n < 256) : ((UInt8.ofNat n).toNat : Int) = n := by
  rw [UInt8.toNat_ofNat', Nat.mod_eq_of_lt h]

theorem toNat_ofInt {n : Int} (h₀ : 0 ≤ n) (h₁ : n ≤ 255) : ((UInt8.ofInt n).toNat : Int) = n := by
  rw [UInt8.ofInt, UInt8.toNat_ofNat']
  omega

theorem testBit_of_lt {n k : Nat} (hn : n < 2 ^ k) {i : Nat} (hi : k ≤ i) : n.testBit i = false :=
  Nat.testBit_lt_two_pow (Nat.lt_of_lt_of_le hn (Nat.pow_le_pow_right (n := 2) (by decide) hi))

/-- **A mask sees the low bits of any integer**, of whatever size and sign. -/
theorem land_eq (v : Int) {n k : Nat} (hn : n < 2 ^ k) :
    Int.land v n = (((v % 2 ^ k).toNat &&& n : Nat) : Int) := by
  cases v with
  | ofNat a =>
    have ha : (Int.ofNat a % 2 ^ k).toNat = a % 2 ^ k := by
      rw [Int.ofNat_eq_natCast]
      norm_cast
    rw [ha]
    refine congrArg Int.ofNat (Nat.eq_of_testBit_eq fun i => ?_)
    rw [Nat.testBit_and, Nat.testBit_and, Nat.testBit_mod_two_pow]
    by_cases hi : i < k
    · simp [hi]
    · simp [testBit_of_lt hn (Nat.le_of_not_lt hi)]
  | negSucc a =>
    have ha : (Int.negSucc a % 2 ^ k).toNat = 2 ^ k - (a % 2 ^ k + 1) := by
      have hpos : (0 : Int) < ((2 ^ k : Nat) : Int) := Int.natCast_pos.2 (Nat.two_pow_pos k)
      rw [← Nat.cast_ofNat, ← Int.natCast_pow, Int.negSucc_emod a hpos, ← Int.natCast_emod]
      omega
    have hldiff : Nat.ldiff n a = (2 ^ k - (a % 2 ^ k + 1)) &&& n := by
      refine Nat.eq_of_testBit_eq fun i => ?_
      rw [Nat.testBit_ldiff, Nat.testBit_and,
        Nat.testBit_two_pow_sub_succ (Nat.mod_lt a (Nat.two_pow_pos k)), Nat.testBit_mod_two_pow]
      by_cases hi : i < k
      · simp [hi, Bool.and_comm]
      · simp [testBit_of_lt hn (Nat.le_of_not_lt hi)]
    rw [ha]
    exact congrArg Int.ofNat hldiff

/-- **A byte masks any integer to a byte.** -/
theorem land_byte (v : Int) {n : Nat} (hn : n < 256) :
    Int.land v n = ((UInt8.ofInt v &&& UInt8.ofNat n).toNat : Int) := by
  have hv : (UInt8.ofInt v).toNat = (v % 2 ^ 8).toNat := by
    have hlt : (v % 2 ^ 8).toNat < 2 ^ 8 := by omega
    rw [UInt8.ofInt, UInt8.toNat_ofNat', Nat.mod_eq_of_lt hlt]
  have hn' : (UInt8.ofNat n).toNat = n := UInt8.toNat_ofNat_of_lt hn
  rw [land_eq v (k := 8) hn, UInt8.toNat_and, hv, hn']

end ChipEight.Wide
