/-
# Doubles against zero

A check that refuses `x ≤ 0` lets through what is above zero and what is no number at all
(`not_le_zero_iff`): the order of the doubles is no total order, and a NaN stands outside
it. Dividing by a double keeps it one or the other: a thousand over `x` is a NaN exactly if
`x` is (`isNaN_thousand_div`).
-/

import ChipEight.Proofs.DoubleRange

namespace ChipEight.Numeral.Double

open Float.Model (UnpackedFloat)

/-! ### The order of the doubles -/

theorem le_iff (x y : Float) : x ≤ y ↔ x.toModel.unpack.le y.toModel.unpack = true := by
  change decide (x.toModel ≤ y.toModel) = true ↔ _
  exact decide_eq_true_iff

theorem lt_iff (x y : Float) : x < y ↔ x.toModel.unpack.lt y.toModel.unpack = true := by
  change decide (x.toModel < y.toModel) = true ↔ _
  exact decide_eq_true_iff

theorem unpack_zero : (0 : Float).toModel.unpack = .zero .positive := rfl

/-- A NaN is above nothing. -/
theorem not_zero_lt_of_isNaN {x : Float} (h : x.isNaN = true) : ¬ 0 < x := by
  rw [lt_iff, unpack_zero]
  change x.toModel.unpack.isNaN = true at h
  generalize x.toModel.unpack = u at *
  cases u with
  | notANumber => simp [UnpackedFloat.lt, UnpackedFloat.compare]
  | _ => cases h

/-- **What is not refused as zero or less** is above zero or no number at all. -/
theorem not_le_zero_iff (x : Float) : ¬ x ≤ 0 ↔ 0 < x ∨ x.isNaN = true := by
  rw [le_iff, lt_iff, unpack_zero]
  change _ ↔ _ ∨ x.toModel.unpack.isNaN = true
  generalize x.toModel.unpack = u
  cases u with
  | notANumber => decide
  | infinity sign => cases sign <;> decide
  | zero sign => cases sign <;> decide
  | finite sign m e h =>
    cases sign <;>
      simp [UnpackedFloat.le, UnpackedFloat.lt, UnpackedFloat.compare, UnpackedFloat.isNaN]

/-- **Of what is not refused, exactly the numbers are above zero.** -/
theorem zero_lt_iff_of_not_le {x : Float} (h : ¬ x ≤ 0) : 0 < x ↔ x.isNaN = false := by
  constructor
  · exact fun hpos => Bool.eq_false_iff.2 fun hnan => not_zero_lt_of_isNaN hnan hpos
  · intro hnum
    obtain hpos | hnan := (not_le_zero_iff x).1 h
    · exact hpos
    · rw [hnum] at hnan
      cases hnan

/-! ### Dividing by a double -/

section

open Float.Model.UnpackedFloat (pack unpack packComponents)

/-- A double put together from its parts is no number exactly if it has the largest
exponent and a fraction. -/
theorem isNaN_packComponents_iff (sign : UnpackedFloat.Sign) (exponent : BitVec 11)
    (mantissa : BitVec 52) :
    (unpack .binary64 (packComponents .binary64 sign exponent mantissa)).isNaN = true
      ↔ exponent = -1#11 ∧ mantissa ≠ 0#52 := by
  have hexp : UnpackedFloat.unpackExponent (packComponents .binary64 sign exponent mantissa)
      = exponent := UnpackedFloat.unpackExponent_packComponents
  have hman : UnpackedFloat.unpackMantissa (packComponents .binary64 sign exponent mantissa)
      = mantissa := UnpackedFloat.unpackMantissa_packComponents
  simp only [unpack, hexp, hman]
  split_ifs <;> simp_all [UnpackedFloat.isNaN]

theorem isNaN_packedInfinity (sign : UnpackedFloat.Sign) :
    (unpack .binary64 (UnpackedFloat.packedInfinity .binary64 sign)).isNaN = false :=
  Bool.eq_false_iff.2 fun h => ((isNaN_packComponents_iff ..).1 h).2 rfl

/-- An exponent that is the largest one was too large before it was cut to eleven bits. -/
theorem le_of_ofNat_eq_last {biased : Nat} (h : BitVec.ofNat 11 biased = -1#11) :
    2 ^ 11 ≤ biased + 1 := by
  have hmod : biased % 2 ^ 11 = 2 ^ 11 - 1 := congrArg BitVec.toNat h
  have hle : biased % 2 ^ 11 ≤ biased := Nat.mod_le ..
  omega

/-- **Rounding a number into a double makes no NaN of it.** -/
theorem isNaN_pack (u : UnpackedFloat) : (Float.Model.pack u).unpack.isNaN = u.isNaN := by
  change (unpack .binary64 (pack .binary64 u)).isNaN = u.isNaN
  cases u with
  | infinity sign => exact isNaN_packedInfinity sign
  | notANumber => rfl
  | zero sign => cases sign <;> rfl
  | finite sign m e hm =>
    refine Bool.eq_false_iff.2 fun h => ?_
    simp only [pack] at h
    split at h
    · exact absurd h (Bool.eq_false_iff.1 (isNaN_packedInfinity sign))
    · rename_i hfits
      split at h
      · have hlast := ((isNaN_packComponents_iff ..).1 h).1
        exact hfits (le_of_ofNat_eq_last hlast)
      · -- a subnormal double has the least exponent
        have hlast := ((isNaN_packComponents_iff ..).1 h).1
        cases hlast

end

/-- **A thousand over a double is no number exactly if the double is none.** -/
theorem isNaN_thousand_div (x : Float) : (1000 / x).isNaN = x.isNaN := by
  obtain ⟨m, e, h, hthousand⟩ :
      ∃ m e h, (1000 : Float).toModel.unpack = .finite .positive m e h := ⟨_, _, _, rfl⟩
  change (Float.Model.pack (.div .binary64 (1000 : Float).toModel.unpack
    x.toModel.unpack)).unpack.isNaN = x.toModel.unpack.isNaN
  rw [isNaN_pack, hthousand]
  cases x.toModel.unpack with
  | finite sign m' e' h' =>
    simp only [UnpackedFloat.div, UnpackedFloat.roundWithAccuracy]
    split <;> rfl
  | _ => rfl

end ChipEight.Numeral.Double
