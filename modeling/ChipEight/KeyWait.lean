/-
# Waiting for a key

A wait is idle until some key is down, and then has observed the highest one.
With `Mode.onRelease` it resolves when that same key is seen up again, with
`Mode.onPress` at once. A poll of a resolved wait starts a new one.
-/

import ChipEight.Keypad

namespace ChipEight

namespace KeyWait

/-- What ends a wait. -/
inductive Mode
  | onRelease | onPress
  deriving DecidableEq, Repr

/-- How far a wait has come. -/
inductive Phase
  | idle
  | observed (key : Fin 16)
  | resolved (key : Fin 16)
  deriving DecidableEq, Repr

/-- The key of a wait that has seen one. -/
def Phase.key? : Phase → Option (Fin 16)
  | .idle => none
  | .observed key | .resolved key => some key

/-- The mode of a name; only `release` waits for the release. -/
def Mode.ofName (name : String) : Mode :=
  if name = "release" then .onRelease else .onPress

/-- The name of a mode. -/
def Mode.name : Mode → String
  | .onRelease => "release"
  | .onPress => "press"

end KeyWait

/-- A wait for a key. -/
structure KeyWait where
  mode : KeyWait.Mode := .onRelease
  phase : KeyWait.Phase := .idle
  deriving DecidableEq, Repr

namespace KeyWait

/-- The wait before any poll. -/
def reset (w : KeyWait) : KeyWait := { w with phase := .idle }

/-- Goes on with an observed key: answers it unless its release is still awaited. -/
def settle (w : KeyWait) (pad : Keypad) (key : Fin 16) : KeyWait × Option (Fin 16) :=
  if w.mode = .onRelease && pad.isPressed (key : Nat) then (w, none)
  else ({ w with phase := .resolved key }, some key)

/-- Looks at the keypad once; answers a key when the wait resolves. -/
def poll (w : KeyWait) (pad : Keypad) : KeyWait × Option (Fin 16) :=
  match w.phase with
  | .observed key => w.settle pad key
  | .idle | .resolved _ =>
    match pad.highest?, w.mode with
    | none, _ => (w.reset, none)
    | some key, .onRelease => ({ w with phase := .observed key }, none)
    | some key, .onPress => ({ w with phase := .resolved key }, some key)

/-- **How a poll can go.** What holds in each of the five cases holds of the poll. -/
@[elab_as_elim] theorem poll_cases {motive : KeyWait × Option (Fin 16) → Prop} (w : KeyWait)
    (pad : Keypad)
    (rests : (∀ key, w.phase ≠ .observed key) → pad.highest? = none → motive (w.reset, none))
    (observes : ∀ key, (∀ key, w.phase ≠ .observed key) → pad.highest? = some key →
      w.mode = .onRelease → motive ({ w with phase := .observed key }, none))
    (answers : ∀ key, (∀ key, w.phase ≠ .observed key) → pad.highest? = some key →
      w.mode = .onPress → motive ({ w with phase := .resolved key }, some key))
    (holds : ∀ key, w.phase = .observed key → w.mode = .onRelease →
      pad.isPressed (key : Nat) = true → motive (w, none))
    (settles : ∀ key, w.phase = .observed key →
      (w.mode = .onRelease → pad.isPressed (key : Nat) = false) →
        motive ({ w with phase := .resolved key }, some key)) :
    motive (w.poll pad) := by
  obtain ⟨mode, phase⟩ := w
  cases phase with
  | observed key =>
    show motive (settle ⟨mode, .observed key⟩ pad key)
    unfold settle
    split
    next h =>
      rw [Bool.and_eq_true, decide_eq_true_iff] at h
      exact holds key rfl h.1 h.2
    next h =>
      refine settles key rfl fun hmode => Bool.eq_false_iff.2 fun hdown => h ?_
      rw [Bool.and_eq_true, decide_eq_true_iff]
      exact ⟨hmode, hdown⟩
  | idle | resolved _ =>
    rw [poll]
    cases hk : pad.highest? with
    | none => exact rests (fun _ h => by cases h) hk
    | some key =>
      cases mode with
      | onRelease => exact observes key (fun _ h => by cases h) hk rfl
      | onPress => exact answers key (fun _ h => by cases h) hk rfl

theorem mode_poll (w : KeyWait) (pad : Keypad) : (w.poll pad).1.mode = w.mode := by
  refine w.poll_cases pad ?_ ?_ ?_ ?_ ?_ <;> intros <;> rfl

/-- A poll that leaves a key observed has seen it down, and awaits its release. -/
theorem poll_of_observed {w : KeyWait} {pad : Keypad} {key : Fin 16} :
    (w.poll pad).1.phase = .observed key →
      w.mode = .onRelease ∧ (w.poll pad).2 = none ∧ pad.isPressed (key : Nat) = true := by
  refine w.poll_cases pad ?rests ?observes ?answers ?holds ?settles
  case rests => exact fun _ _ h => by cases h
  case observes =>
    rintro key' _ hk hmode h
    obtain rfl := Phase.observed.inj h
    rw [Keypad.isPressed_key]
    exact ⟨hmode, rfl, (Keypad.highest?_eq_some_iff.1 hk).1⟩
  case answers => exact fun _ _ _ _ h => by cases h
  case holds =>
    intro key' hphase hmode hdown h
    obtain rfl := Phase.observed.inj (hphase.symm.trans h)
    exact ⟨hmode, rfl, hdown⟩
  case settles => exact fun _ _ _ h => by cases h

/-- A poll that answers where the release is awaited has observed the key before, and sees
it up. -/
theorem poll_of_answer {w : KeyWait} {pad : Keypad} {key : Fin 16} (hmode : w.mode = .onRelease) :
    (w.poll pad).2 = some key → w.phase = .observed key ∧ pad.isPressed (key : Nat) = false ∧
      (w.poll pad).1.phase = .resolved key := by
  refine w.poll_cases pad ?rests ?observes ?answers ?holds ?settles
  case rests => exact fun _ _ h => by cases h
  case observes => exact fun _ _ _ _ h => by cases h
  case answers => exact fun _ _ _ hpress => by cases hmode.symm.trans hpress
  case holds => exact fun _ _ _ _ h => by cases h
  case settles =>
    intro key' hphase hup h
    obtain rfl := Option.some.inj h
    exact ⟨hphase, hup hmode, rfl⟩

end KeyWait
end ChipEight
