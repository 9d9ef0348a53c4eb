/-
# The call stack is a bounded list

Whatever is asked of a call stack, it answers like a plain list that holds no more values
than the stack has slots (`CallStack.acts_as_list`). `BoundedList.handle` is that list:
values go behind the last one and come off there.

The list is the one of the live addresses (`CallStack.live`): a slot above them may keep a
value that was popped, and no request tells. A full stack is noticed before the value, and
a value that is no address before the slot is written, so that a refused push leaves all
slots as they were.
-/

import ChipEight.CallStack
import ChipEight.Proofs.Service

namespace ChipEight

namespace CallStack

/-- What can be asked of a call stack. -/
inductive Request
  | push (value : Int)
  | pop
  | clear
  deriving DecidableEq, Repr

/-- What a call stack answers. -/
inductive Answer
  | done
  | popped (address : Nat)
  deriving DecidableEq, Repr

/-- A call stack takes a request. -/
def handle : Handler CallStack Request Error Answer
  | s, .push value => (s.push value).map fun t => (.done, t)
  | s, .pop => s.pop.map fun (address, t) => (.popped address, t)
  | s, .clear => .ok (.done, s.clear)

end CallStack

namespace BoundedList

open CallStack (Request Answer Error)

/-- A list of at most `depth` values of sixteen bits takes a request. -/
def handle (depth : Nat) : Handler (List Nat) Request Error Answer
  | values, .push value =>
    if depth ≤ values.length then .error .overflow
    else if 0 ≤ value ∧ value ≤ 65535 then .ok (.done, values ++ [value.toNat])
    else .error (.notAddress value)
  | values, .pop =>
    match values.getLast? with
    | none => .error .underflow
    | some value => .ok (.popped value, values.dropLast)
  | _, .clear => .ok (.done, [])

end BoundedList

namespace CallStack

variable {depth : Nat} {s t : CallStack} {values : List Nat} {value : Int}

/-- A stack of so many slots holds a list of values. -/
structure Holds (depth : Nat) (s : CallStack) (values : List Nat) : Prop where
  depth : s.depth = depth
  live : s.live = values

theorem holds_empty (depth : Nat) : Holds depth (empty depth) [] := ⟨depth_empty depth, rfl⟩

theorem push_eq_notAddress (h : s.used ≠ s.depth) (hvalue : ¬ (0 ≤ value ∧ value ≤ 65535)) :
    s.push value = .error (.notAddress value) := by
  have hlt : s.used < s.slots.size := Nat.lt_of_le_of_ne s.used_le h
  rw [push, dif_pos hlt, if_pos (by omega)]

namespace Holds

theorem length (h : Holds depth s values) : values.length = s.used := by
  rw [← h.live, length_live]

theorem used_le (h : Holds depth s values) : s.used ≤ depth := h.depth ▸ s.used_le

/-- **A stack takes a push like the list that it holds.** -/
theorem push (h : Holds depth s values) (value : Int) :
    Handler.SameResult (Holds depth) (handle s (.push value))
      (BoundedList.handle depth values (.push value)) := by
  rw [handle, BoundedList.handle, h.length]
  by_cases hfull : s.used = s.depth
  · rw [push_of_full hfull, if_pos (Nat.le_of_eq (h.depth.symm.trans hfull.symm))]
    exact .refused _
  · have hroom : ¬ depth ≤ s.used := by
      have := h.used_le
      rw [h.depth] at hfull
      omega
    rw [if_neg hroom]
    by_cases hvalue : 0 ≤ value ∧ value ≤ 65535
    · obtain ⟨address, rfl⟩ := Int.eq_ofNat_of_zero_le hvalue.1
      obtain ⟨t, ht⟩ := exists_push hfull (show address ≤ 65535 by omega)
      rw [if_pos hvalue, ht]
      refine .answered _ ⟨(depth_push ht).trans h.depth, ?_⟩
      rw [live_push ht, h.live, Int.toNat_natCast]
    · rw [if_neg hvalue, push_eq_notAddress hfull hvalue]
      exact .refused _

/-- **A stack takes a pop like the list that it holds.** -/
theorem pop (h : Holds depth s values) :
    Handler.SameResult (Holds depth) (handle s .pop) (BoundedList.handle depth values .pop) := by
  rw [handle, BoundedList.handle]
  by_cases hempty : s.used = 0
  · have hnil : values = [] := List.eq_nil_of_length_eq_zero (h.length.trans hempty)
    rw [pop_of_empty hempty, hnil]
    exact .refused _
  · obtain ⟨address, t, ht⟩ := exists_pop hempty
    have hlast : values = t.live ++ [address] := h.live.symm.trans (live_pop ht)
    rw [ht, hlast, List.getLast?_concat, List.dropLast_concat]
    exact .answered _ ⟨(depth_pop ht).trans h.depth, rfl⟩

end Holds

/-- **A stack takes every request like the list that it holds.** -/
theorem refines_boundedList (depth : Nat) :
    Handler.Refines handle (BoundedList.handle depth) (Holds depth) := by
  intro s values h r
  cases r with
  | push value => exact h.push value
  | pop => exact h.pop
  | clear => exact .answered _ ⟨(depth_clear s).trans h.depth, live_clear s⟩

/-- **A call stack acts as a bounded list** under every history of requests. It never holds
more than its depth, and a request that is refused changes neither the count of the slots in
use nor any slot. -/
theorem acts_as_list (depth : Nat) (rs : List Request) :
    (∀ s, ofDepth depth = .ok s → s = empty depth) ∧
    handle.answers (empty depth) rs = (BoundedList.handle depth).answers [] rs ∧
    let s := handle.after (empty depth) rs
    let values := (BoundedList.handle depth).after [] rs
    s.live = values ∧ s.used = values.length ∧ s.used ≤ depth ∧ s.depth = depth ∧
      ∀ r e, (handle.serve s r).1 = .error e →
        (handle.serve s r).2.used = s.used ∧ (handle.serve s r).2.slots = s.slots := by
  obtain ⟨hanswers, hholds⟩ := (refines_boundedList depth).run (holds_empty depth) rs
  refine ⟨fun s => Room.eq_of_made, hanswers, hholds.live, hholds.length.symm, hholds.used_le,
    hholds.depth, fun r e he => ?_⟩
  rw [Handler.serve_of_refused he]
  exact ⟨rfl, rfl⟩

/-- Two slots, of which the upper one was popped and still has its value: a value of seventeen
bits is refused before it gets there. -/
theorem acts_as_list_staleSlot :
    let s := handle.after (empty 2) [.push 0x200, .push 0x300, .pop]
    (handle.serve s (.push 0x10000)).1 = .error (.notAddress 0x10000) ∧
      (handle.serve s (.push 0x10000)).2.used = 1 ∧
      (handle.serve s (.push 0x10000)).2.slots = #[0x200, 0x300] := by
  obtain ⟨-, -, -, -, -, -, hrefused⟩ := acts_as_list 2 [.push 0x200, .push 0x300, .pop]
  have herror : (handle.serve (handle.after (empty 2) [.push 0x200, .push 0x300, .pop])
      (.push 0x10000)).1 = .error (.notAddress 0x10000) := rfl
  obtain ⟨hused, hslots⟩ := hrefused _ _ herror
  exact ⟨herror, hused.trans rfl, hslots.trans rfl⟩

end CallStack
end ChipEight
