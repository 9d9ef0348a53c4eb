/-
# Where random bytes come from

A source is a tape of numbers with a cursor, or a seeded generator, of which the
top eight bits of each output are used. `RandomSource.stream` is the sequence
that a source will give.
-/

import ChipEight.RandomSource.Twister

namespace ChipEight

/-- A sequence of numbers, drawn one at a time. -/
inductive RandomSource
  /-- The values of a tape from the cursor on. -/
  | tape (values : Nat → Int) (next : Nat)
  /-- The outputs of a generator. -/
  | twister (state : RandomSource.Twister)

namespace RandomSource

/-- The next number and the source after it. -/
def draw : RandomSource → Int × RandomSource
  | .tape values next => (values next, .tape values (next + 1))
  | .twister state =>
    let (word, state) := state.next
    ((word >>> 24).toNat, .twister state)

/-- The source after `n` draws. -/
def after (s : RandomSource) : Nat → RandomSource
  | 0 => s
  | n + 1 => s.draw.2.after n

/-- The number that the draw after `n` draws gives. -/
def stream (s : RandomSource) (n : Nat) : Int := (s.after n).draw.1

/-- Zero for ever. -/
def zeros : RandomSource := .tape (fun _ => 0) 0

/-- A list of values over and over; an empty one gives zeros. -/
def cycle (values : List Int) : RandomSource :=
  let values := values.toArray
  .tape (fun n => values.getD (n % values.size) 0) 0

/-- The generator of a seed. -/
def seeded (seed : Int) : RandomSource := .twister (.ofSeed seed)

theorem draw_after (s : RandomSource) (n : Nat) : (s.after n).draw.2 = s.after (n + 1) := by
  induction n generalizing s with
  | zero => rfl
  | succ n ih => exact ih s.draw.2

/-- The stream of a source goes on where it was left. -/
theorem stream_after (s : RandomSource) (n k : Nat) : (s.after n).stream k = s.stream (n + k) := by
  induction n generalizing s with
  | zero => rw [Nat.zero_add, after]
  | succ n ih => exact (ih s.draw.2).trans (by rw [Nat.add_right_comm]; rfl)

@[simp] theorem stream_tape (values : Nat → Int) (next n : Nat) :
    (tape values next).stream n = values (next + n) := by
  induction n generalizing next with
  | zero => rfl
  | succ n ih =>
    have : (tape values next).stream (n + 1) = (tape values (next + 1)).stream n := rfl
    rw [this, ih]; congr 1; omega

end RandomSource
end ChipEight
