/-
# Words and encodings

An encoding is a mask and a pattern: a word is of an operation if the bits under the mask
are those of the pattern (`Opcode.Matches`). That holds of words of any size and sign and is
the same as having the fixed nibbles (`Encoding.fits_iff_land`).

Two encodings that a word can have at once agree in every nibble that both of them fix
(`Encoding.meets_of_fits`), and no two operations have such encodings (`Opcode.eq_of_fits`).
So the operation of a word is the one that it matches (`Opcode.ofWord?_eq_some_iff`), and a
look-up finds it in a table of any order (`Opcode.find?_of_perm`).
-/

import ChipEight.Instruction.Opcode
import ChipEight.Proofs.Wide.Bytes

namespace ChipEight

variable {e e' : Encoding} {f : Fields} {op op' : Opcode} {word : Int}

/-- The nibbles of a word, from the leading one on, as far as they are fixed. -/
def Encoding.fixed : Encoding → List (Option Nat)
  | .whole kind x y n => [some kind, some x, some y, some n]
  | .leading kind => [some kind, none, none, none]
  | .outer kind n => [some kind, none, none, some n]
  | .outerByte kind y n => [some kind, none, some y, some n]

/-- The bits to look at in a nibble that is fixed or not. -/
def maskOf (nibble : Option Nat) : Nat := if nibble.isSome then 15 else 0

/-- The bits that are fixed. -/
def Encoding.mask (e : Encoding) : Nat :=
  e.fixed.foldl (fun bits nibble => 16 * bits + maskOf nibble) 0

/-- What they are. -/
def Encoding.pattern (e : Encoding) : Nat :=
  e.fixed.foldl (fun bits nibble => 16 * bits + nibble.getD 0) 0

/-- The word has the bits that the operation's encoding fixes. -/
def Opcode.Matches (op : Opcode) (word : Int) : Prop :=
  Int.land word op.encoding.mask = op.encoding.pattern

instance (op : Opcode) (word : Int) : Decidable (op.Matches word) :=
  inferInstanceAs (Decidable (_ = _))

/-- What is fixed are nibbles. -/
def Encoding.Proper (e : Encoding) : Prop := ∀ nibble ∈ e.fixed, nibble.getD 0 < 16

instance (e : Encoding) : Decidable e.Proper := List.decidableBAll _ e.fixed

theorem Opcode.proper_encoding (op : Opcode) : op.encoding.Proper := by cases op <;> decide

/-- A mask may be laid on the last nibble and on the bits before it apart. -/
theorem land_nibble (a b : Nat) {c d : Nat} (hc : c < 16) (hd : d < 16) :
    (16 * a + c) &&& (16 * b + d) = 16 * (a &&& b) + (c &&& d) := by
  refine Nat.eq_of_testBit_eq fun i => ?_
  have hcd : c &&& d < 2 ^ 4 := Nat.and_lt_two_pow c hd
  rw [Nat.testBit_and, show 16 = 2 ^ 4 by rfl, Nat.testBit_two_pow_mul_add a hc,
    Nat.testBit_two_pow_mul_add b hd, Nat.testBit_two_pow_mul_add _ hcd]
  split <;> rw [Nat.testBit_and]

theorem maskOf_lt (nibble : Option Nat) : maskOf nibble < 16 := by
  rw [maskOf]
  split <;> decide

/-- **What a mask tells of the last nibble** and of the bits before it. -/
theorem land_maskOf_iff (a b c : Nat) (n : Fin 16) {nibble : Option Nat}
    (h : nibble.getD 0 < 16) :
    (16 * a + n) &&& (16 * b + maskOf nibble) = 16 * c + nibble.getD 0 ↔
      a &&& b = c ∧ ∀ v ∈ nibble, n.val = v := by
  rw [land_nibble a b n.isLt (maskOf_lt nibble)]
  cases nibble with
  | none => simp [maskOf]
  | some v =>
    have hn : n.val &&& 15 = n :=
      (Nat.and_two_pow_sub_one_eq_mod n.val 4).trans (Nat.mod_eq_of_lt n.isLt)
    simp only [maskOf, Option.isSome_some, if_true, hn, Option.getD_some, Option.mem_def,
      Option.some_inj, forall_eq'] at h ⊢
    omega

theorem land_word (word : Int) {mask : Nat} (h : mask < 65536) :
    Int.land word mask = ((Fields.ofWord word).toWord &&& mask : Nat) := by
  have hword : (word % 2 ^ 16).toNat = (Fields.ofWord word).toWord := by
    have := Fields.toWord_ofWord word
    omega
  rw [Wide.land_eq word (k := 16) h, hword]

/-- **A word fits an encoding exactly if it has its pattern under its mask.** -/
theorem Encoding.fits_iff_land (he : e.Proper) (word : Int) :
    e.fits (Fields.ofWord word) = true ↔ Int.land word e.mask = e.pattern := by
  generalize hf : Fields.ofWord word = f
  obtain ⟨kind, x, y, n, hfixed⟩ : ∃ kind x y n, e.fixed = [kind, x, y, n] := by
    cases e <;> exact ⟨_, _, _, _, rfl⟩
  have hfits : e.fits f = true ↔ (((0 &&& 0 = 0 ∧ ∀ v ∈ kind, f.kind.val = v) ∧
      ∀ v ∈ x, f.x.val = v) ∧ ∀ v ∈ y, f.y.val = v) ∧ ∀ v ∈ n, f.n.val = v := by
    cases e <;> cases hfixed <;> simp [fits]
  have hmask : e.mask = 16 * (16 * (16 * (16 * 0 + maskOf kind) + maskOf x) + maskOf y)
      + maskOf n := by
    rw [mask, hfixed]
    rfl
  have hpattern : e.pattern = 16 * (16 * (16 * (16 * 0 + kind.getD 0) + x.getD 0) + y.getD 0)
      + n.getD 0 := by
    rw [pattern, hfixed]
    rfl
  have hword : f.toWord = 16 * (16 * (16 * (16 * 0 + f.kind) + f.x) + f.y) + f.n := by
    rw [Fields.toWord, Fields.nnn]
    omega
  have hlt : e.mask < 65536 := by
    have := maskOf_lt kind
    have := maskOf_lt x
    have := maskOf_lt y
    have := maskOf_lt n
    omega
  simp only [Proper, hfixed, List.forall_mem_cons] at he
  obtain ⟨hkind, hx, hy, hn, -⟩ := he
  rw [land_word word hlt, hf, Int.natCast_inj, hword, hmask, hpattern, land_maskOf_iff _ _ _ _ hn,
    land_maskOf_iff _ _ _ _ hy, land_maskOf_iff _ _ _ _ hx, land_maskOf_iff _ _ _ _ hkind, hfits]

namespace Opcode

/-- **An operation matches the words that fit its encoding.** -/
theorem matches_iff_fits : op.Matches word ↔ op.encoding.fits (Fields.ofWord word) = true :=
  (Encoding.fits_iff_land op.proper_encoding word).symm

example : skipPressed.encoding.mask = 0xF0FF ∧ skipPressed.encoding.pattern = 0xE09E := by decide

end Opcode

/-- Wherever both encodings fix a nibble they fix it alike. -/
def Encoding.meets (e e' : Encoding) : Bool :=
  (e.fixed.zip e'.fixed).all fun (nibble, nibble') =>
    nibble.isNone || nibble'.isNone || nibble = nibble'

/-- **Encodings of one word meet.** -/
theorem Encoding.meets_of_fits (h : e.fits f = true) (h' : e'.fits f = true) :
    e.meets e' = true := by
  cases e <;> cases e' <;> simp_all [fits, meets, fixed]

namespace Opcode

/-- **No word is of two operations.** -/
theorem eq_of_fits (h : op.encoding.fits f = true) (h' : op'.encoding.fits f = true) :
    op = op' := by
  have hall : ∀ op ∈ all, ∀ op' ∈ all, op.encoding.meets op'.encoding = true → op = op' := by
    decide +kernel
  exact hall op op.mem_all op' op'.mem_all (Encoding.meets_of_fits h h')

/-- **The operation of a word is the one that it matches.** -/
theorem ofWord?_eq_some_iff : ofWord? word = some op ↔ op.Matches word := by
  rw [matches_iff_fits]
  constructor
  · exact fits_of_ofWord?
  · intro h
    cases hop : ofWord? word with
    | none => exact absurd h (List.find?_eq_none.1 hop op op.mem_all)
    | some op' => rw [eq_of_fits (fits_of_ofWord? hop) h]

theorem ofWord?_eq_none_iff : ofWord? word = none ↔ ∀ op : Opcode, ¬ op.Matches word := by
  rw [Option.eq_none_iff_forall_ne_some]
  exact forall_congr' fun op => not_congr ofWord?_eq_some_iff

/-- **The order of the table does not matter** to a look-up. -/
theorem find?_of_perm {table : List Opcode} (h : table.Perm all) (word : Int) :
    table.find? (fun op => op.Matches word) = ofWord? word := by
  cases hop : table.find? (fun op => op.Matches word) with
  | some op =>
    have hmatches : decide (op.Matches word) = true := by simpa only using List.find?_some hop
    exact (ofWord?_eq_some_iff.2 (of_decide_eq_true hmatches)).symm
  | none =>
    refine (ofWord?_eq_none_iff.2 fun op hmatches => ?_).symm
    exact List.find?_eq_none.1 hop op (h.mem_iff.2 op.mem_all) (decide_eq_true hmatches)

end Opcode
end ChipEight
