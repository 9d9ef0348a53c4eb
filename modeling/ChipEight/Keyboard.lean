/-
# A keyboard as a keypad

A keyboard holds which hex keys are down, as its symbols are pressed and released.
Which key a symbol works is said by a keymap; symbols that are not in it work none.
A key number below zero counts from the last key back.
-/

namespace ChipEight

/-- A keymap, a later entry over an earlier one of the same symbol, and the hex keys
that are down. -/
structure Keyboard (σ : Type) where
  keymap : List (σ × Int)
  down : Vector Bool 16 := .replicate 16 false

namespace Keyboard

variable {σ : Type}

/-- A keymap names a key that does not exist. -/
structure NoSuchKey where
  key : Int
  deriving DecidableEq, Repr

/-- The key of a symbol. -/
def key? [BEq σ] (k : Keyboard σ) (symbol : σ) : Option Int := k.keymap.reverse.lookup symbol

theorem toNat_lt_of_nonneg {key : Int} (h : 0 ≤ key ∧ key < 16) : key.toNat < 16 := by omega

theorem toNat_lt_of_neg {key : Int} (h : -16 ≤ key ∧ key < 0) : (key + 16).toNat < 16 := by
  omega

theorem place_lt (place : Fin 16) : (place : Nat) < 16 := place.isLt

/-- The place of a key number. -/
def place? (key : Int) : Option (Fin 16) :=
  if h : 0 ≤ key ∧ key < 16 then some ⟨key.toNat, toNat_lt_of_nonneg h⟩
  else if h : -16 ≤ key ∧ key < 0 then some ⟨(key + 16).toNat, toNat_lt_of_neg h⟩
  else none

/-- Moves the key of a symbol; the flag says that the symbol has one. -/
def move [BEq σ] (k : Keyboard σ) (symbol : σ) (isDown : Bool) :
    Except NoSuchKey (Keyboard σ × Bool) :=
  match k.key? symbol with
  | none => .ok (k, false)
  | some key =>
    match place? key with
    | none => .error ⟨key⟩
    | some place => .ok ({ k with down := k.down.set place isDown (place_lt place) }, true)

/-- A symbol goes down. -/
def press [BEq σ] (k : Keyboard σ) (symbol : σ) :
    Except NoSuchKey (Keyboard σ × Bool) :=
  k.move symbol true

/-- A symbol comes up. -/
def release [BEq σ] (k : Keyboard σ) (symbol : σ) :
    Except NoSuchKey (Keyboard σ × Bool) :=
  k.move symbol false

/-- All keys come up. -/
def releaseAll (k : Keyboard σ) : Keyboard σ := { k with down := .replicate 16 false }

/-- Which keys are down. -/
def snapshot (k : Keyboard σ) : List Bool := k.down.toList

@[simp] theorem length_snapshot (k : Keyboard σ) : k.snapshot.length = 16 := by simp [snapshot]

end Keyboard
end ChipEight
