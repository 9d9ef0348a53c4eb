/-
# The Mersenne twister

The 32-bit generator with 624 words of state, seeded from a list of words. An
output is a word of the state, tempered; when all words are used the state is
renewed as a whole.
-/

namespace ChipEight.RandomSource

/-- The words of the state and the number of them used. -/
structure Twister where
  words : Array UInt32
  used : Nat
  deriving DecidableEq, Repr

namespace Twister

/-- Words of state. -/
def size : Nat := 624

/-- Distance of the word mixed into a renewed one. -/
def shift : Nat := 397

/-- Both halves of a word folded, as all seedings do. -/
def fold (w : UInt32) : UInt32 := w ^^^ (w >>> 30)

/-- The state seeded from one word. -/
def fillFrom (seed : UInt32) : Array UInt32 :=
  ((List.range (size - 1)).foldl (fun (words, last) i =>
    let next := 1812433253 * fold last + UInt32.ofNat (i + 1)
    (words.push next, next)) (#[seed], seed)).1

/-- The word at `i`; zero outside. -/
def word (words : Array UInt32) (i : Nat) : UInt32 := words.getD i 0

/-- The place after `i` in a pass over the state. Word 0 takes the value of the
last word when the pass comes round, and the pass goes on at 1. -/
def advance (words : Array UInt32) (i : Nat) : Array UInt32 × Nat :=
  if i + 1 < size then (words, i + 1)
  else (words.setIfInBounds 0 (word words (size - 1)), 1)

/-- Stirs a list of words in, in `rounds` steps from places `i` and `j`. -/
def stirKey (key : Array UInt32) (words : Array UInt32) (i j : Nat) :
    Nat → Array UInt32 × Nat
  | 0 => (words, i)
  | rounds + 1 =>
    let mixed := (word words i ^^^ (fold (word words (i - 1)) * 1664525))
      + word key j + UInt32.ofNat j
    let (words, i) := advance (words.setIfInBounds i mixed) i
    stirKey key words i (if j + 1 < key.size then j + 1 else 0) rounds

/-- Stirs the places themselves in, in `rounds` steps from place `i`. -/
def stirPlaces (words : Array UInt32) (i : Nat) : Nat → Array UInt32
  | 0 => words
  | rounds + 1 =>
    let mixed := (word words i ^^^ (fold (word words (i - 1)) * 1566083941)) - UInt32.ofNat i
    let (words, i) := advance (words.setIfInBounds i mixed) i
    stirPlaces words i rounds

/-- The generator seeded from a list of words. -/
def ofKey (key : Array UInt32) : Twister :=
  let (words, i) := stirKey key (fillFrom 19650218) 1 0 (max size key.size)
  let words := stirPlaces words i (size - 1)
  ⟨words.setIfInBounds 0 0x80000000, size⟩

/-- The 32-bit words of a number, the lowest first; zero has none. -/
def wordsOf (n : Nat) : List UInt32 :=
  if h : n = 0 then [] else UInt32.ofNat n :: wordsOf (n / 0x100000000)
termination_by n
decreasing_by exact Nat.div_lt_self (by omega) (by decide)

/-- The generator of a seed; its sign does not count, and zero is one zero word. -/
def ofSeed (seed : Int) : Twister :=
  ofKey (if seed = 0 then #[0] else (wordsOf seed.natAbs).toArray)

/-- A word of the renewed state. -/
def renewed (words : Array UInt32) (i : Nat) : UInt32 :=
  let next := word words ((i + 1) % size)
  let y := (word words i &&& 0x80000000) ||| (next &&& 0x7fffffff)
  word words ((i + shift) % size) ^^^ (y >>> 1) ^^^ (if y &&& 1 = 0 then 0 else 0x9908b0df)

/-- The next state; each word is renewed in place, from words already renewed. -/
def renew (words : Array UInt32) : Array UInt32 :=
  (List.range size).foldl (fun words i => words.setIfInBounds i (renewed words i)) words

/-- Spreads the bits of a state word over an output. -/
def temper (y : UInt32) : UInt32 :=
  let y := y ^^^ (y >>> 11)
  let y := y ^^^ ((y <<< 7) &&& 0x9d2c5680)
  let y := y ^^^ ((y <<< 15) &&& 0xefc60000)
  y ^^^ (y >>> 18)

/-- The next output and the generator after it. -/
def next (t : Twister) : UInt32 × Twister :=
  let t := if t.used < size then t else ⟨renew t.words, 0⟩
  (temper (word t.words t.used), { t with used := t.used + 1 })

end Twister
end ChipEight.RandomSource
