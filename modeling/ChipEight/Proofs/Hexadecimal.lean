/-
# Base 16 reads back

A number written in base 16 is read as that number again, whatever its sign and however many
zeros fill it (`Numeral.readIntBase_hex`), so two numbers that are written alike are equal
(`Numeral.hex_injective`).
-/

import ChipEight.Numeral.Hex
import ChipEight.Numeral.Plain

namespace ChipEight.Numeral

variable {value width : Nat} {values : List Nat}

/-- The upper-case digit of a value below sixteen. -/
def upperDigit (value : Nat) : Char := (Nat.digitChar value).toUpper

/-- An upper-case digit has its value, and is neither a sign nor a blank nor the letter of a
base mark. -/
theorem upperDigit_spec (h : value < 16) :
    digitValue? (upperDigit value) = some value ∧ upperDigit value ≠ '-' ∧
      upperDigit value ≠ '+' ∧ upperDigit value ≠ 'x' ∧ upperDigit value ≠ 'X' ∧
      upperDigit value ≠ ' ' ∧ upperDigit value ≠ ',' ∧
      Text.isAsciiBlank (upperDigit value) = false := by
  have hall : ∀ value : Fin 16, digitValue? (upperDigit value) = some value.val ∧
      upperDigit value ≠ '-' ∧ upperDigit value ≠ '+' ∧ upperDigit value ≠ 'x' ∧
      upperDigit value ≠ 'X' ∧ upperDigit value ≠ ' ' ∧ upperDigit value ≠ ',' ∧
      Text.isAsciiBlank (upperDigit value) = false := by
    decide
  exact hall ⟨value, h⟩

theorem ofDigits_append_singleton (base : Nat) (values : List Nat) (value : Nat) :
    ofDigits base (values ++ [value]) = base * ofDigits base values + value := by
  rw [ofDigits, List.foldl_append]
  rfl

theorem ofDigits_replicate_zero_append (base k : Nat) (values : List Nat) :
    ofDigits base (.replicate k 0 ++ values) = ofDigits base values := by
  induction k with
  | zero => rfl
  | succ k ih =>
    rw [← ih, List.replicate_succ]
    rfl

/-- **The digits of a number**, most significant first. -/
theorem exists_hexDigits (n : Nat) :
    ∃ values : List Nat, hexDigits n = values.map upperDigit ∧ values ≠ [] ∧
      (∀ value ∈ values, value < 16) ∧ ofDigits 16 values = n := by
  induction n using Nat.strongRecOn with
  | ind n ih =>
    by_cases hn : n < 16
    · refine ⟨[n], ?_, List.cons_ne_nil n [], ?_, Nat.zero_add n⟩
      · rw [hexDigits, Nat.toDigits_of_lt_base hn]
        rfl
      · simpa using hn
    · obtain ⟨values, hdigits, -, hlt, hof⟩ := ih (n / 16) (by omega)
      refine ⟨values ++ [n % 16], ?_, by simp, ?_, ?_⟩
      · rw [hexDigits, Nat.toDigits_of_base_le (by decide) (by omega), List.map_append,
          List.map_append, ← hdigits]
        rfl
      · have hlast := Nat.mod_lt n (show 0 < 16 by decide)
        simpa [or_imp, forall_and] using ⟨hlt, hlast⟩
      · rw [ofDigits_append_singleton, hof]
        omega

/-- A digit is read, also where an underscore could not stand. -/
theorem digitRun_upperDigit (h : value < 16) (spaced : Bool) (cs : List Char) :
    digitRun 16 spaced (upperDigit value :: cs)
      = (digitRun 16 false cs).map fun (values, rest) => (value :: values, rest) := by
  have hbase : baseDigit? 16 (upperDigit value) = some value := by
    rw [baseDigit?, (upperDigit_spec h).1, Option.bind_some, if_pos h]
  rw [digitRun, hbase]

/-- Digits that stand alone are all read. -/
theorem digitRun_map_upperDigit (h : ∀ value ∈ values, value < 16) :
    digitRun 16 false (values.map upperDigit) = some (values, []) := by
  induction values with
  | nil => rfl
  | cons value values ih =>
    obtain ⟨hvalue, hrest⟩ := List.forall_mem_cons.1 h
    rw [List.map_cons, digitRun_upperDigit hvalue, ih hrest]
    rfl

/-- No sign is taken from a digit. -/
theorem takeSign_upperDigit (h : value < 16) (cs : List Char) :
    takeSign (upperDigit value :: cs) = (false, upperDigit value :: cs) := by
  obtain ⟨-, hminus, hplus, -⟩ := upperDigit_spec h
  unfold takeSign
  split
  next heq => exact absurd (List.cons.inj heq).1 hminus
  next heq => exact absurd (List.cons.inj heq).1 hplus
  · rfl

/-- No base mark is taken from digits. -/
theorem dropBaseMark_map_upperDigit (h : ∀ value ∈ values, value < 16) :
    dropBaseMark 16 (values.map upperDigit) = values.map upperDigit := by
  unfold dropBaseMark
  split
  next mark rest heq =>
    have hmark : mark ∈ values.map upperDigit := by
      rw [heq]
      simp
    obtain ⟨value, hvalue, rfl⟩ := List.mem_map.1 hmark
    obtain ⟨-, -, -, hx, hX, -⟩ := upperDigit_spec (h value hvalue)
    simp [hx, hX, heq]
  · rfl

/-- **Digits are read as their number**, also behind a minus sign. -/
theorem readIntBase_digits (hne : values ≠ []) (h : ∀ value ∈ values, value < 16) :
    readIntBase 16 (values.map upperDigit) = .ok (ofDigits 16 values) ∧
      readIntBase 16 ('-' :: values.map upperDigit) = .ok (-(ofDigits 16 values : Int)) := by
  obtain ⟨value, rest, rfl⟩ := List.exists_cons_of_ne_nil hne
  obtain ⟨hvalue, hrest⟩ := List.forall_mem_cons.1 h
  have hrun : digitRun 16 true ((value :: rest).map upperDigit) = some (value :: rest, []) := by
    rw [List.map_cons, digitRun_upperDigit hvalue, digitRun_map_upperDigit hrest]
    rfl
  have hblank : ((value :: rest).map upperDigit).dropWhile Text.isAsciiBlank
      = (value :: rest).map upperDigit :=
    List.dropWhile_cons_of_neg (Bool.eq_false_iff.1 (upperDigit_spec hvalue).2.2.2.2.2.2.2)
  have hsign : takeSign ((value :: rest).map upperDigit)
      = (false, (value :: rest).map upperDigit) :=
    takeSign_upperDigit hvalue _
  have hminus : takeSign (('-' :: (value :: rest).map upperDigit).dropWhile Text.isAsciiBlank)
      = (true, (value :: rest).map upperDigit) := rfl
  rw [readIntBase, readIntBase, hblank, hsign, hminus]
  simp only [dropBaseMark_map_upperDigit h, hrun]
  exact ⟨rfl, rfl⟩

/-- What is written of a number in base 16: digits, and in front of them the sign. -/
theorem exists_hex (width : Nat) (n : Int) :
    ∃ values : List Nat, values ≠ [] ∧ (∀ value ∈ values, value < 16) ∧
      ofDigits 16 values = n.natAbs ∧
      (hex width n).toList = (if n < 0 then ['-'] else []) ++ values.map upperDigit := by
  obtain ⟨values, hdigits, hne, hlt, hof⟩ := exists_hexDigits n.natAbs
  let zeros := width - (if n < 0 then ['-'] else []).length - (hexDigits n.natAbs).length
  refine ⟨.replicate zeros 0 ++ values, by simp [hne], ?_, ?_, ?_⟩
  · intro value hvalue
    obtain hvalue | hvalue := List.mem_append.1 hvalue
    · rw [(List.mem_replicate.1 hvalue).2]
      decide
    · exact hlt value hvalue
  · rw [ofDigits_replicate_zero_append, hof]
  · rw [hex, String.toList_ofList, List.append_assoc, List.map_append, List.map_replicate,
      ← hdigits]
    rfl

/-- **A number written in base 16 reads back**, however wide it is written. -/
theorem readIntBase_hex (width : Nat) (n : Int) :
    readIntBase 16 (hex width n).toList = .ok n := by
  obtain ⟨values, hne, hlt, hof, hchars⟩ := exists_hex width n
  obtain ⟨hread, hminus⟩ := readIntBase_digits hne hlt
  rw [hchars]
  by_cases hn : n < 0
  · rw [if_pos hn, List.singleton_append, hminus, hof]
    exact congrArg Except.ok (by omega)
  · rw [if_neg hn, List.nil_append, hread, hof]
    exact congrArg Except.ok (by omega)

/-- **Numbers that are written alike are equal.** -/
theorem hex_injective (width : Nat) : Function.Injective (hex width) := by
  intro a b h
  have ha := readIntBase_hex width a
  rw [h, readIntBase_hex width b] at ha
  exact (Except.ok.inj ha).symm

/-- A number that has no more digits than it is wide is written that wide. -/
theorem length_hex {n : Nat} (hwidth : 0 < width) (hn : n < Nat.pow 16 width) :
    (hex width n).toList.length = width := by
  have hlength : (hexDigits n).length ≤ width := by
    rw [hexDigits, List.length_map]
    exact (Nat.length_toDigits_le_iff (by decide) hwidth).2 hn
  have hsign : ¬ (n : Int) < 0 := by omega
  simp only [hex, if_neg hsign, String.toList_ofList, Int.natAbs_natCast, List.nil_append,
    List.length_append, List.length_replicate, List.length_nil]
  omega

/-- There is no blank and no comma in a number. -/
theorem plain_hex {c : Char} {n : Int} (h : c ∈ (hex width n).toList) : c ≠ ' ' ∧ c ≠ ',' := by
  obtain ⟨values, -, hlt, -, hchars⟩ := exists_hex width n
  rw [hchars] at h
  obtain h | h := List.mem_append.1 h
  · split at h
    · obtain rfl := List.mem_singleton.1 h
      decide
    · cases h
  · obtain ⟨value, hvalue, rfl⟩ := List.mem_map.1 h
    obtain ⟨-, -, -, -, -, hblank, hcomma, -⟩ := upperDigit_spec (hlt value hvalue)
    exact ⟨hblank, hcomma⟩

end ChipEight.Numeral
