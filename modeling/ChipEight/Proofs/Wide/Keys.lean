/-
# Keys as numbers

The keypad as a list of numbers, zero for a key that is up, and a key wait whose
state and key are apart, so that there could be a key in no state or none in
another. `Keypad.wide` and `KeyWait.wide` give the numbers of a keypad and of a
wait, and polling goes the same way for both (`KeyWait.wide_poll`).
-/

import ChipEight.KeyWait
import Mathlib.Data.List.Range

namespace ChipEight
namespace Wide

/-- What can go wrong with plain numbers and is no fault of a program. -/
inductive Trap
  /-- There is no such register. -/
  | noRegister
  /-- There is no such key, or none to look for. -/
  | noKey
  /-- A number among bytes is none. -/
  | notByte
  /-- A slot of the stack cannot hold the number. -/
  | notSlot
  deriving DecidableEq, Repr

@[simp] theorem ok_bind {ε α β : Type} (a : α) (f : α → Except ε β) :
    (Except.ok a >>= f) = f a := rfl

/-- The key is down. -/
def isPressed (keys : List Int) (key : Int) : Except Trap Bool :=
  if 0 ≤ key ∧ key < 16 then
    match keys[key.toNat]? with
    | some state => .ok (state != 0)
    | none => .error .noKey
  else .ok false

/-- The highest key that is down. -/
def highest? (keys : List Int) : Option Int :=
  ((List.range keys.length).reverse.find? fun key => keys.getD key 0 != 0).map Nat.cast

/-- How far a wait has come. -/
inductive Wait.State
  | idle | observed | resolved
  deriving DecidableEq, Repr

/-- A wait for a key. -/
structure Wait where
  mode : KeyWait.Mode
  state : Wait.State := .idle
  key : Option Int := none
  deriving DecidableEq, Repr

namespace Wait

/-- The wait before any poll. -/
def reset (w : Wait) : Wait := { w with state := .idle, key := none }

/-- The release of the key is still awaited. -/
def isHeld (w : Wait) (keys : List Int) : Except Trap Bool :=
  match w.mode, w.key with
  | .onPress, _ => .ok false
  | .onRelease, none => .error .noKey
  | .onRelease, some key => isPressed keys key

/-- Goes on with an observed key. -/
def settle (w : Wait) (keys : List Int) : Except Trap (Wait × Option Int) := do
  return if ← w.isHeld keys then (w, none) else ({ w with state := .resolved }, w.key)

/-- Looks at the keypad once; answers a key when the wait resolves. -/
def poll (w : Wait) (keys : List Int) : Except Trap (Wait × Option Int) :=
  let w := if w.state = .resolved then w.reset else w
  if w.state = .idle then
    match highest? keys with
    | none => .ok (w, none)
    | some key =>
      let w := { w with state := .observed, key := some key }
      if w.mode = .onRelease then .ok (w, none) else w.settle keys
  else w.settle keys

end Wait
end Wide

/-- The states of the keys as numbers. -/
def Keypad.wide (pad : Keypad) : List Int := pad.down.toList.map fun b => (b.toNat : Int)

namespace Keypad

variable (pad : Keypad)

theorem wide_released : released.wide = .replicate 16 0 := rfl

@[simp] theorem length_wide : pad.wide.length = 16 := by simp [wide]

theorem getElem_wide {i : Nat} (hi : i < 16) (h : i < pad.wide.length) :
    pad.wide[i] = ((pad.down.get ⟨i, hi⟩).toNat : Int) := by
  simp [wide, Vector.get]

theorem mem_wide {state : Int} (h : state ∈ pad.wide) : state = 0 ∨ state = 1 := by
  obtain ⟨b, -, rfl⟩ := List.mem_map.1 h
  cases b <;> decide

theorem toNat_bne_zero (b : Bool) : ((b.toNat : Int) != 0) = b := by cases b <;> rfl

theorem wide_isPressed (key : Int) : Wide.isPressed pad.wide key = .ok (pad.isPressed key) := by
  rw [Wide.isPressed, isPressed]
  by_cases h : 0 ≤ key ∧ key < 16
  · have hi : key.toNat < 16 := toNat_lt h
    have hl : key.toNat < pad.wide.length := by simpa using hi
    rw [if_pos h, dif_pos h, List.getElem?_eq_getElem hl, pad.getElem_wide hi]
    exact congrArg Except.ok (toNat_bne_zero _)
  · rw [if_neg h, dif_neg h]

theorem wide_highest :
    Wide.highest? pad.wide = pad.highest?.map fun key => ((key : Nat) : Int) := by
  have hr : List.range pad.wide.length = (List.finRange 16).map Fin.val := by
    rw [length_wide]
    decide
  have hp : ((fun key => pad.wide.getD key 0 != 0) ∘ Fin.val) = fun key => pad.down.get key := by
    funext key
    have hl : key.val < pad.wide.length := by simp
    rw [Function.comp, List.getD_eq_getElem?_getD, List.getElem?_eq_getElem hl, Option.getD_some,
      pad.getElem_wide key.isLt]
    exact toNat_bne_zero _
  rw [Wide.highest?, hr, ← List.map_reverse, List.find?_map, hp, highest?]
  cases (List.finRange 16).reverse.find? fun key => pad.down.get key <;> rfl

end Keypad

namespace KeyWait

/-- The state of a wait, without its key. -/
def Phase.state : Phase → Wide.Wait.State
  | .idle => .idle
  | .observed _ => .observed
  | .resolved _ => .resolved

/-- The wait with its state and its key apart. -/
def wide (w : KeyWait) : Wide.Wait :=
  ⟨w.mode, w.phase.state, w.phase.key?.map fun key => ((key : Nat) : Int)⟩

theorem wide_settle (w : KeyWait) (pad : Keypad) {key : Fin 16} (h : w.phase = .observed key) :
    w.wide.settle pad.wide = .ok ((w.settle pad key).1.wide,
      (w.settle pad key).2.map fun key => ((key : Nat) : Int)) := by
  obtain ⟨mode, phase⟩ := w
  obtain rfl : phase = .observed key := h
  rw [Wide.Wait.settle, settle]
  cases mode with
  | onPress => rfl
  | onRelease =>
    show (Wide.isPressed pad.wide (key : Nat) >>= _) = _
    rw [pad.wide_isPressed]
    cases pad.isPressed (key : Nat) <;> rfl

/-- **A poll of the numbers is a poll.** -/
theorem wide_poll (w : KeyWait) (pad : Keypad) :
    w.wide.poll pad.wide
      = .ok ((w.poll pad).1.wide, (w.poll pad).2.map fun key => ((key : Nat) : Int)) := by
  obtain ⟨mode, phase⟩ := w
  cases phase with
  | observed key => exact wide_settle ⟨mode, .observed key⟩ pad rfl
  | idle | resolved _ =>
    simp only [Wide.Wait.poll, wide, Phase.state, poll]
    rw [pad.wide_highest]
    cases pad.highest? <;> cases mode <;> rfl

/-- **A wait has a key in every state but the idle one.** -/
theorem key_wide_eq_none (w : KeyWait) : w.wide.key = none ↔ w.wide.state = .idle := by
  obtain ⟨mode, phase⟩ := w
  cases phase <;> simp [wide, Phase.state, Phase.key?]

theorem mem_key_wide {w : KeyWait} {key : Int} (h : key ∈ w.wide.key) : 0 ≤ key ∧ key ≤ 15 := by
  obtain ⟨mode, phase⟩ := w
  cases phase with
  | idle => cases h
  | observed k | resolved k =>
    have hk := k.isLt
    have h : ((k : Nat) : Int) = key := Option.some.inj h
    omega

end KeyWait
end ChipEight
