/-
# Pictures of a grid

A grid of pixel values becomes the bytes of an image: four bytes to a texel, three
colour channels and full opacity, lines from the bottom up, each pixel a square of
`scale` by `scale` texels.
-/

import ChipEight.Room

namespace ChipEight.Picture

/-- The texel of a pixel value; one is white. -/
def texel (value : UInt8) : List UInt8 :=
  let channel := value * 255
  [channel, channel, channel, 255]

/-- The members of a list, each `n` times in place. -/
def stretch {α : Type} (n : Nat) (xs : List α) : List α := xs.flatMap (List.replicate n)

/-- The texels of a grid, one to a pixel, from the bottom line up. -/
def texels (rows : List (List UInt8)) : List (List (List UInt8)) :=
  rows.reverse.map (List.map texel)

/-- The bytes of a line of texels, each `scale` times in place. -/
def lineBytes (scale : Nat) (line : List (List UInt8)) : List UInt8 :=
  (stretch scale line).flatten

/-- The bytes of a grid at a scale. At scale one there is nothing to stretch. -/
def render (rows : List (List UInt8)) (scale : Nat) : List UInt8 :=
  let lines := texels rows
  if scale = 1 then (lines.map List.flatten).flatten
  else (stretch scale (lines.map (lineBytes scale))).flatten

/-- The bytes of a grid of `height` lines of `width` texels. A side of no texels
takes room as if it had one. -/
def bytesOf (width height : Nat) : Nat := max 1 width * max 1 height * 4

/-- There is room for a grid of pixels stretched by a scale: first down, then both
ways. At scale one nothing is stretched. -/
def checkRoom (width height : Nat) (scale : Int) : Except Room.Error Nat :=
  if scale = 1 then .ok 1
  else do
    let scale ← Room.count scale
    Room.take (bytesOf width (height * scale))
    Room.take (bytesOf (width * scale) (height * scale))
    return scale

/-- The width of a grid: that of its lines, which are equally long. -/
def widthOf (rows : List (List UInt8)) : Nat := (rows.head?.map List.length).getD 0

/-- The bytes of a grid at a scale, if there is room for them. -/
def renderWithin (rows : List (List UInt8)) (scale : Int) : Except Room.Error (List UInt8) := do
  return render rows (← checkRoom (widthOf rows) rows.length scale)

end ChipEight.Picture
