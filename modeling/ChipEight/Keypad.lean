/-
# The keypad

Sixteen hex keys, each down or up. The host latches a whole snapshot at a time;
programs only look.
-/

namespace ChipEight

/-- Which of the sixteen keys are down. -/
structure Keypad where
  down : Vector Bool 16
  deriving DecidableEq, Repr

namespace Keypad

/-- A snapshot that is not sixteen entries long. -/
structure BadSnapshot where
  length : Nat
  deriving DecidableEq, Repr

/-- All keys up. -/
def released : Keypad := ⟨Vector.replicate 16 false⟩

/-- The keypad shown by a snapshot. -/
def latch (snapshot : List Bool) : Except BadSnapshot Keypad :=
  if h : snapshot.length = 16 then .ok ⟨⟨snapshot.toArray, by simpa using h⟩⟩
  else .error ⟨snapshot.length⟩

theorem toNat_lt {key : Int} (h : 0 ≤ key ∧ key < 16) : key.toNat < 16 := by omega

/-- The key is down; a number that is no key never is. -/
def isPressed (k : Keypad) (key : Int) : Bool :=
  if h : 0 ≤ key ∧ key < 16 then k.down.get ⟨key.toNat, toNat_lt h⟩ else false

/-- The highest key that is down. -/
def highest? (k : Keypad) : Option (Fin 16) :=
  (List.finRange 16).reverse.find? fun key => k.down.get key

theorem isPressed_key (pad : Keypad) (key : Fin 16) :
    pad.isPressed (key : Nat) = pad.down.get key := by
  have hkey : (0 : Int) ≤ (key : Nat) ∧ ((key : Nat) : Int) < 16 := by omega
  rw [isPressed, dif_pos hkey]
  rfl

theorem highest?_eq_none_iff {pad : Keypad} :
    pad.highest? = none ↔ ∀ key, pad.down.get key = false := by
  simp [highest?, List.find?_eq_none]

/-- The highest key is down, and none above it is. -/
theorem highest?_eq_some_iff {pad : Keypad} {key : Fin 16} :
    pad.highest? = some key ↔
      pad.down.get key = true ∧ ∀ key', pad.down.get key' = true → key' ≤ key := by
  -- The keys are looked through from the highest down.
  have hsorted : (List.finRange 16).reverse.Pairwise (· > ·) := by decide
  have hle {key : Fin 16} (h : pad.highest? = some key) :
      ∀ key', pad.down.get key' = true → key' ≤ key := by
    intro key' hkey'
    obtain ⟨-, above, below, hl, habove⟩ := List.find?_eq_some_iff_append.1 h
    have hmem : key' ∈ above ++ key :: below := hl ▸ List.mem_reverse.2 (List.mem_finRange key')
    rw [hl] at hsorted
    obtain hmem | hmem := List.mem_append.1 hmem
    · have hup := habove key' hmem
      rw [hkey'] at hup
      cases hup
    · obtain rfl | hmem := List.mem_cons.1 hmem
      · exact Fin.le_refl _
      · exact Fin.le_of_lt ((List.pairwise_cons.1 (List.pairwise_append.1 hsorted).2.1).1 key' hmem)
  constructor
  · intro h
    exact ⟨List.find?_some h, hle h⟩
  · rintro ⟨hdown, hmax⟩
    cases h : pad.highest? with
    | none =>
      rw [highest?_eq_none_iff.1 h key] at hdown
      cases hdown
    | some key' =>
      exact congrArg some (Fin.le_antisymm (hmax key' (List.find?_some h)) (hle h key hdown))

/-- Wording of a bad snapshot. -/
def BadSnapshot.message (e : BadSnapshot) : String :=
  "Keypad snapshot needs 16 entries, got " ++ toString e.length

end Keypad
end ChipEight
