/-
# Hosts

What a program asks of the host that runs it (`Host`): files, a loader of documents,
and a stack. The stack limits how deep a value can be gone through. A value is written
and copied part by part (`Value.parts`), each part within those of the collections that it
lies in, and whether there is room for one more is for the host to say (`Stack`).
-/

import ChipEight.Files
import ChipEight.Yaml.Loader

namespace ChipEight

namespace Value

mutual

/-- The value and all that it holds, in the order it is written, each with the number of
collections around it; around the value itself there are `depth`. -/
def parts (depth : Nat) : Value → List (Nat × Value)
  | list items => (depth, list items) :: partsOfItems (depth + 1) items
  | set items => (depth, set items) :: partsOfItems (depth + 1) items
  | map entries => (depth, map entries) :: partsOfEntries (depth + 1) entries
  | v => [(depth, v)]

/-- The parts of the members of a collection. -/
def partsOfItems (depth : Nat) : List Value → List (Nat × Value)
  | [] => []
  | v :: vs => parts depth v ++ partsOfItems depth vs

/-- The parts of the keys and values of a mapping. -/
def partsOfEntries (depth : Nat) : List (Value × Value) → List (Nat × Value)
  | [] => []
  | (key, v) :: entries => parts depth key ++ parts depth v ++ partsOfEntries depth entries

end

end Value

/-- The room that a host has to go through a value. The calls of the program itself always
have room, those for what lies in collections need not. -/
structure Stack where
  /-- There is room to write a value with so many collections around it. -/
  writes : Nat → Value → Bool
  /-- There is room to copy a value with so many collections around it. -/
  copies : Nat → Value → Bool
  writes_zero (v : Value) : writes 0 v = true
  copies_zero (v : Value) : copies 0 v = true

namespace Stack

/-- A stack with room for so many collections in one another, where a copy takes twice
the room. -/
def ofDepth (most : Nat) : Stack where
  writes depth _ := depth ≤ most
  copies depth _ := 2 * depth ≤ most
  writes_zero _ := decide_eq_true (Nat.zero_le most)
  copies_zero _ := decide_eq_true (Nat.zero_le most)

/-- Every part of a value can be copied. -/
def canCopy (stack : Stack) (v : Value) : Bool :=
  (v.parts 0).all fun (depth, part) => stack.copies depth part

end Stack

/-- What a program asks of the host that runs it. -/
structure Host where
  files : Files
  loader : Yaml.Loader
  stack : Stack

namespace Host

/-- The depth that values are written to here. -/
def usualDepth : Nat := 960

/-- The host with these files, the loader of `ChipEight.Yaml` and a stack of the usual
depth. -/
def ofFiles (files : Files) : Host := ⟨files, Yaml.loader, .ofDepth usualDepth⟩

instance : Coe Files Host := ⟨ofFiles⟩

/-- The host without files. -/
def bare : Host := ofFiles .none

end Host
end ChipEight
