/-
# The screen

A grid of pixels that are lit or dark. A sprite is a list of rows of eight bits,
leftmost bit highest; drawing flips the pixels under its set bits. The origin
wraps around the grid, but what runs over the right or the bottom edge is cut
off. A draw reports a collision when it turns a lit pixel dark.

`dirty` says that the picture may differ from the one shown last.
-/

import ChipEight.Room

namespace ChipEight

/-- A grid of pixels, row by row from the top. -/
structure Screen (width height : Nat) where
  pixels : Vector (Vector Bool width) height
  dirty : Bool := true
  deriving DecidableEq, Repr

namespace Screen

variable {width height : Nat}

/-- All pixels dark. -/
def blank (width height : Nat) : Screen width height :=
  ⟨Vector.replicate height (Vector.replicate width false), true⟩

/-- The sides of a grid of one byte to a pixel, if there is room for it. A side of no
pixels takes room as if it had one. -/
def sides (width height : Int) : Except Room.Error (Nat × Nat) := do
  let width ← Room.count width
  let height ← Room.count height
  Room.take (max 1 width * max 1 height)
  return (width, height)

/-- Turns every pixel dark. -/
def clear (_ : Screen width height) : Screen width height := blank width height

/-- The picture has been shown. -/
def clean (s : Screen width height) : Screen width height := { s with dirty := false }

/-- The bit of weight `2 ^ i` of a row in two's complement. -/
def rowBit (row : Int) (i : Nat) : Bool := (row / (Nat.pow 2 i : Nat)) % 2 = 1

/-- Flips one pixel of a line; the flag says that it was lit. -/
def flip (dots : Vector Bool width) (column : Nat) : Vector Bool width × Bool :=
  if h : column < width then (dots.set column !dots[column], dots[column]) else (dots, false)

/-- Flips the pixels of a line under the bits `count - 1` … `0` of a row whose
next column is `column`. -/
def stampBits (line : Vector Bool width) (column : Nat) (row : Int) :
    Nat → Vector Bool width × Bool
  | 0 => (line, false)
  | count + 1 =>
    let (line, hit) := if rowBit row count then flip line column else (line, false)
    let (line, hits) := stampBits line (column + 1) row count
    (line, hit || hits)

/-- Stamps the rows of a sprite on consecutive lines, from `line` down to the
bottom edge. -/
def stamp (pixels : Vector (Vector Bool width) height) (column line : Nat) :
    List Int → Vector (Vector Bool width) height × Bool
  | [] => (pixels, false)
  | row :: rows =>
    if h : line < height then
      let (stamped, hit) := stampBits pixels[line] column row 8
      let (pixels, hits) := stamp (pixels.set line stamped) column (line + 1) rows
      (pixels, hit || hits)
    else (pixels, false)

/-- Stamps a sprite with its top left corner at `(x, y)`, wrapped into the grid.
The dirty mark stays as it was. -/
def paint (s : Screen width height) (x y : Int) (rows : List Int) :
    Screen width height × Bool :=
  let (pixels, hit) := stamp s.pixels (x % width).toNat (y % height).toNat rows
  ({ s with pixels := pixels }, hit)

/-- Draws a sprite; the flag says that a lit pixel was turned dark. -/
def draw (s : Screen width height) (x y : Int) (rows : List Int) :
    Screen width height × Bool :=
  let (s, hit) := s.paint x y rows
  ({ s with dirty := true }, hit)

/-- A line as text, `#` for lit and `.` for dark. -/
def lineText (line : Vector Bool width) : String :=
  String.ofList (line.toList.map fun lit => if lit then '#' else '.')

/-- The lines as text. -/
def rows (s : Screen width height) : List String := s.pixels.toList.map lineText

/-- The number of lit pixels. -/
def lit (s : Screen width height) : Nat :=
  (s.pixels.toList.flatMap Vector.toList).count true

end Screen
end ChipEight
