/-
# Room for stores

A size that comes as an integer is a count if it is neither below zero nor beyond
64 bits (`Room.count`). A store of so many bytes exists if the bytes can be counted
and a host has room for them (`Room.take`).
-/

namespace ChipEight.Room

/-- Why there is no store of a size. -/
inductive Error
  /-- The size is below zero. -/
  | negative
  /-- The size is beyond 64 bits. -/
  | uncountable
  /-- The bytes of the store are beyond 64 bits. -/
  | overflow
  /-- No host has room for the bytes. -/
  | exhausted
  deriving DecidableEq, Repr

/-- Wording of a refused size. -/
def Error.message : Error → String
  | negative => "a size is below zero"
  | uncountable => "a size is too large to be counted"
  | overflow => "a store is too large to be counted in bytes"
  | exhausted => "there is no room for a store"

/-- The largest count of anything: 64 bits with a sign. -/
def maxCount : Nat := 0x7FFFFFFFFFFFFFFF

/-- The most bytes that a host can give to one store. -/
def most : Nat := 0x1000000000

/-- The count that an integer is. -/
def count (n : Int) : Except Error Nat :=
  if (maxCount : Int) < n ∨ n < -(maxCount : Int) - 1 then .error .uncountable
  else if n < 0 then .error .negative
  else .ok n.toNat

/-- There is room for so many bytes. -/
def take (bytes : Nat) : Except Error Unit :=
  if maxCount < bytes then .error .overflow
  else if most < bytes then .error .exhausted
  else .ok ()

theorem count_ofNat {n : Nat} (h : n ≤ maxCount) : count n = .ok n := by
  have h₁ : ¬ ((maxCount : Int) < n ∨ (n : Int) < -(maxCount : Int) - 1) := by omega
  rw [count, if_neg h₁, if_neg (by omega), Int.toNat_natCast]

theorem eq_of_count {n k : Nat} (h : count n = .ok k) : k = n := by
  unfold count at h
  split at h
  · cases h
  · rw [if_neg (by omega), Int.toNat_natCast] at h
    exact (Except.ok.inj h).symm

/-- A store that is made for a count has the size that was asked for. -/
theorem eq_of_made {α : Type} {n : Nat} {bytes : Nat → Nat} {make : Nat → α} {a : α}
    (h : (do
      let k ← count n
      take (bytes k)
      return make k) = .ok a) : a = make n := by
  cases hcount : count n with
  | error e => rw [hcount] at h; cases h
  | ok k =>
    obtain rfl := eq_of_count hcount
    rw [hcount] at h
    change (take (bytes k) >>= fun _ => .ok (make k)) = .ok a at h
    cases htake : take (bytes k) with
    | error e => rw [htake] at h; cases h
    | ok u => rw [htake] at h; exact (Except.ok.inj h).symm

theorem take_of_le {bytes : Nat} (h : bytes ≤ most) : take bytes = .ok () := by
  have h₁ : most ≤ maxCount := by decide
  rw [take, if_neg (by omega), if_neg (by omega)]

end ChipEight.Room
