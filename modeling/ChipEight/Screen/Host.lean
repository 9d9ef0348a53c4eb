/-
# Sprites from a host

A host may hand over sprite rows as values. Rows are drawn one after the other, so
one that is no integer stops the draw after the rows before it, with the screen not
yet marked dirty; if it lies below the bottom edge nobody looks at it.
-/

import ChipEight.Screen
import ChipEight.Value

namespace ChipEight.Screen

variable {width height : Nat}

/-- Why a host's draw is refused. -/
inductive DrawError
  /-- The grid has no pixels. -/
  | noPixels
  /-- The rows, or one of them, are of the wrong type. -/
  | wrongType
  deriving DecidableEq, Repr

/-- The rows before the first that is no integer. -/
def leadingRows (rows : List Value) : List Int := (rows.map Value.int?).takeWhile (·.isSome)
  |>.filterMap id

/-- Draws a host's sprite. -/
def drawHost (s : Screen width height) (x y : Int) (rows : Value) :
    Screen width height × Except DrawError Bool :=
  if width = 0 ∨ height = 0 then (s, .error .noPixels)
  else
    match rows.items? with
    | none => (s, .error .wrongType)
    | some rows =>
      let leading := leadingRows rows
      let stops := leading.length < rows.length && (y % height).toNat + leading.length < height
      if stops then ((s.paint x y leading).1, .error .wrongType)
      else
        let (s, hit) := s.draw x y leading
        (s, .ok hit)

end ChipEight.Screen
