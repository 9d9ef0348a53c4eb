/-
# The call stack

A fixed number of sixteen-bit slots and a count of those in use. A slot keeps
its value when it is popped. `CallStack.live` is the list of return addresses
that a push and a pop work on.
-/

import ChipEight.Room

namespace ChipEight

/-- Return addresses, the newest last. -/
structure CallStack where
  slots : Array UInt16
  used : Nat
  used_le : used ≤ slots.size
  deriving DecidableEq, Repr

namespace CallStack

/-- Why a stack operation is refused. -/
inductive Error
  /-- All slots are in use. -/
  | overflow
  /-- No slot is in use. -/
  | underflow
  /-- The value does not fit a slot. -/
  | notAddress (value : Int)
  deriving DecidableEq, Repr

/-- A stack of `depth` slots, none in use. -/
def empty (depth : Nat) : CallStack := ⟨Array.replicate depth 0, 0, Nat.zero_le _⟩

/-- A stack of `depth` slots of two bytes, if there is room for it. -/
def ofDepth (depth : Int) : Except Room.Error CallStack := do
  let depth ← Room.count depth
  Room.take (2 * depth)
  return empty depth

/-- The number of slots. -/
def depth (s : CallStack) : Nat := s.slots.size

/-- The addresses in use, oldest first. -/
def live (s : CallStack) : List Nat := (s.slots.toList.take s.used).map (·.toNat)

theorem used_succ_le (s : CallStack) (address : UInt16) (h : s.used < s.slots.size) :
    s.used + 1 ≤ (s.slots.set s.used address h).size := by
  rw [Array.size_set]; omega

/-- Puts an address into the first slot that is not in use. -/
def put (s : CallStack) (address : UInt16) (h : s.used < s.slots.size) : CallStack :=
  ⟨s.slots.set s.used address h, s.used + 1, used_succ_le s address h⟩

/-- Puts an address on top. A full stack is noticed before the value is looked at. -/
def push (s : CallStack) (value : Int) : Except Error CallStack :=
  if h : s.used < s.slots.size then
    if value < 0 ∨ 65535 < value then .error (.notAddress value)
    else .ok (s.put (UInt16.ofInt value) h)
  else .error .overflow

/-- Takes the newest address off. -/
def pop (s : CallStack) : Except Error (Nat × CallStack) :=
  if h : s.used = 0 then .error .underflow
  else
    have := s.used_le
    .ok (s.slots[s.used - 1].toNat, ⟨s.slots, s.used - 1, by omega⟩)

/-- All slots zero and none in use. -/
def clear (s : CallStack) : CallStack := empty s.depth

@[simp] theorem depth_empty (n : Nat) : (empty n).depth = n := by simp [empty, depth]

@[simp] theorem depth_clear (s : CallStack) : s.clear.depth = s.depth := depth_empty _

@[simp] theorem length_live (s : CallStack) : s.live.length = s.used := by
  have := s.used_le
  simp only [live, List.length_map, List.length_take, Array.length_toList]
  omega

@[simp] theorem live_empty (n : Nat) : (empty n).live = [] := rfl

@[simp] theorem live_clear (s : CallStack) : s.clear.live = [] := live_empty _

theorem live_put (s : CallStack) (address : UInt16) (h : s.used < s.slots.size) :
    (s.put address h).live = s.live ++ [address.toNat] := by
  simp only [live, put, Array.toList_set]
  rw [List.take_add_one, List.take_set_of_le (Nat.le_refl _)]
  simp [h]

theorem push_of_full {s : CallStack} (h : s.used = s.depth) (value : Int) :
    s.push value = .error .overflow := by
  rw [push, dif_neg]
  exact fun h' => absurd h (Nat.ne_of_lt h')

theorem exists_push {s : CallStack} (h : s.used ≠ s.depth) {address : Nat}
    (ha : address ≤ 65535) : ∃ t, s.push address = .ok t := by
  have hlt : s.used < s.slots.size := Nat.lt_of_le_of_ne s.used_le h
  have hv : ¬ ((address : Int) < 0 ∨ 65535 < (address : Int)) := by omega
  exact ⟨_, by rw [push, dif_pos hlt, if_neg hv]⟩

/-- **A push puts the address behind the live ones.** -/
theorem live_push {s t : CallStack} {address : Nat} (h : s.push address = .ok t) :
    t.live = s.live ++ [address] := by
  unfold push at h
  split at h
  next hs =>
    split at h
    · cases h
    next hv =>
      obtain rfl := Except.ok.inj h
      rw [live_put]
      simp only [UInt16.ofInt, UInt16.toNat_ofNat']
      congr 2
      omega
  · cases h

theorem pop_of_empty {s : CallStack} (h : s.used = 0) : s.pop = .error .underflow := by
  rw [pop, dif_pos h]

theorem exists_pop {s : CallStack} (h : s.used ≠ 0) : ∃ address t, s.pop = .ok (address, t) :=
  ⟨_, _, by rw [pop, dif_neg h]⟩

/-- **A pop takes the last of the live addresses.** -/
theorem live_pop {s t : CallStack} {address : Nat} (h : s.pop = .ok (address, t)) :
    s.live = t.live ++ [address] := by
  unfold pop at h
  split at h
  · cases h
  next hs =>
    obtain ⟨rfl, rfl⟩ := Prod.mk.inj (Except.ok.inj h)
    have hlt : s.used - 1 < s.slots.size := by have := s.used_le; omega
    have hused : s.slots.toList.take s.used
        = s.slots.toList.take (s.used - 1) ++ [s.slots[s.used - 1]] := by
      conv => lhs; rw [show s.used = s.used - 1 + 1 by omega, List.take_add_one]
      simp [hlt]
    simp [live, hused]

theorem depth_push {s t : CallStack} {value : Int} (h : s.push value = .ok t) :
    t.depth = s.depth := by
  unfold push at h
  split at h
  · split at h
    · simp at h
    · obtain rfl := Except.ok.inj h; simp [depth, put]
  · simp at h

theorem depth_pop {s t : CallStack} {a : Nat} (h : s.pop = .ok (a, t)) : t.depth = s.depth := by
  unfold pop at h
  split at h
  · simp at h
  · obtain ⟨-, rfl⟩ := Prod.mk.inj (Except.ok.inj h); rfl

end CallStack
end ChipEight
