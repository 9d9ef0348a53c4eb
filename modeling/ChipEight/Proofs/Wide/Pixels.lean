/-
# Pixels as numbers

The screen as lists of numbers, zero for a dark pixel. A sprite is stamped by
flipping the lowest bit of a number, whatever the number is. `Screen.wide` gives
the numbers of a screen, and stamping them goes as on the screen
(`Screen.wide_draw`).
-/

import ChipEight.Screen
import Mathlib.Data.Int.Bitwise

namespace ChipEight
namespace Wide

/-- Flips one pixel of a line; the flag says that it was lit. -/
def flip (dots : List Int) (column : Nat) : List Int × Bool :=
  match dots[column]? with
  | some dot => (dots.set column (Int.xor dot 1), dot != 0)
  | none => (dots, false)

/-- Flips the pixels of a line under the bits `count - 1` … `0` of a row whose
next column is `column`. -/
def stampBits (dots : List Int) (column : Nat) (row : Int) : Nat → List Int × Bool
  | 0 => (dots, false)
  | count + 1 =>
    let (dots, hit) := if Screen.rowBit row count then flip dots column else (dots, false)
    let (dots, hits) := stampBits dots (column + 1) row count
    (dots, hit || hits)

/-- Stamps the rows of a sprite on consecutive lines, from `line` down to the
bottom edge. -/
def stamp (pixels : List (List Int)) (column line : Nat) : List Int → List (List Int) × Bool
  | [] => (pixels, false)
  | row :: rows =>
    match pixels[line]? with
    | some dots =>
      let (stamped, hit) := stampBits dots column row 8
      let (pixels, hits) := stamp (pixels.set line stamped) column (line + 1) rows
      (pixels, hit || hits)
    | none => (pixels, false)

end Wide

namespace Screen

variable {width height : Nat}

/-- The pixels of a line as numbers. -/
def wideLine (dots : Vector Bool width) : List Int := dots.toList.map fun b => (b.toNat : Int)

/-- The pixels as numbers. -/
def wide (s : Screen width height) : List (List Int) := s.pixels.toList.map wideLine

theorem xor_one (b : Bool) : Int.xor b.toNat 1 = (!b).toNat := by cases b <;> rfl

theorem wide_flip (dots : Vector Bool width) (column : Nat) :
    Wide.flip (wideLine dots) column
      = (wideLine (flip dots column).1, (flip dots column).2) := by
  rw [Wide.flip, flip, wideLine]
  by_cases h : column < width
  · have hl : column < dots.toList.length := by simpa using h
    rw [dif_pos h, List.getElem?_map, List.getElem?_eq_getElem hl]
    simp only [Option.map_some, Vector.getElem_toList, xor_one, wideLine, Vector.toList_set,
      List.map_set]
    cases dots[column] <;> rfl
  · have hl : dots.toList.length ≤ column := by simpa using h
    rw [dif_neg h, List.getElem?_map, List.getElem?_eq_none hl]
    rfl

theorem wide_stampBits (dots : Vector Bool width) (column : Nat) (row : Int) (count : Nat) :
    Wide.stampBits (wideLine dots) column row count
      = (wideLine (stampBits dots column row count).1, (stampBits dots column row count).2) := by
  induction count generalizing dots column with
  | zero => rfl
  | succ count ih =>
    simp only [Wide.stampBits, stampBits]
    by_cases h : rowBit row count
    · simp only [h, if_true, wide_flip, ih]
    · simp only [h, Bool.false_eq_true, if_false, ih]

theorem wide_stamp (pixels : Vector (Vector Bool width) height) (column line : Nat)
    (rows : List Int) :
    Wide.stamp (pixels.toList.map wideLine) column line rows
      = ((stamp pixels column line rows).1.toList.map wideLine,
        (stamp pixels column line rows).2) := by
  induction rows generalizing pixels line with
  | nil => rfl
  | cons row rows ih =>
    rw [Wide.stamp, stamp, List.getElem?_map]
    by_cases h : line < height
    · have hl : line < pixels.toList.length := by simpa using h
      rw [dif_pos h, List.getElem?_eq_getElem hl]
      have hs (dots : Vector Bool width) : (pixels.toList.map wideLine).set line (wideLine dots)
          = (pixels.set line dots).toList.map wideLine := by
        rw [Vector.toList_set, List.map_set]
      simp only [Option.map_some, Vector.getElem_toList, wide_stampBits, hs, ih]
    · have hl : pixels.toList.length ≤ line := by simpa using h
      rw [dif_neg h, List.getElem?_eq_none hl]
      rfl

/-- **Stamping the numbers is drawing on the screen.** -/
theorem wide_draw (s : Screen 64 32) (x y : Int) (rows : List Int) :
    Wide.stamp s.wide (x % 64).toNat (y % 32).toNat rows
      = ((s.draw x y rows).1.wide, (s.draw x y rows).2) :=
  wide_stamp ..

theorem wide_blank : (blank width height).wide = .replicate height (.replicate width 0) := by
  simp [wide, blank, wideLine]

theorem length_wide (s : Screen width height) : s.wide.length = height := by simp [wide]

/-- **Every line has the same width, and its pixels are dark or lit.** -/
theorem mem_wide {s : Screen width height} {dots : List Int} (h : dots ∈ s.wide) :
    dots.length = width ∧ ∀ dot ∈ dots, dot = 0 ∨ dot = 1 := by
  obtain ⟨line, -, rfl⟩ := List.mem_map.1 h
  refine ⟨by simp [wideLine], fun dot hd => ?_⟩
  obtain ⟨b, -, rfl⟩ := List.mem_map.1 hd
  cases b <;> decide

end Screen
end ChipEight
