/-
# Where the bytes of a picture are

A picture is made of blocks of one length: four bytes to a texel, as many texels to a line,
as many lines to the picture. So the byte at an index is found by a division for each layer
(`Picture.getElem?_flatten`), and where each member of a list stands `n` times the one at `i`
was at `i / n` (`Picture.getElem?_stretch`). In a picture of `height * scale` lines of
`width * scale` texels, lines counted from the bottom and columns from the left, byte `q` of
the texel in line `l` and column `c` is of the pixel in line `l / scale` from the bottom and
column `c / scale` (`Picture.getElem?_render`).

A channel is 255 times the value of the pixel, in a byte its negative, so the bytes tell the
values (`Grid.render_inj`), whatever the scale.
-/

import ChipEight.Window
import Mathlib.Data.Fin.Basic

namespace ChipEight.Picture

/-! ## Blocks of one length -/

variable {α : Type} {blocks : List (List α)} {n : Nat}

theorem length_flatten (h : ∀ block ∈ blocks, block.length = n) :
    blocks.flatten.length = blocks.length * n := by
  rw [List.length_flatten, List.map_congr_left h, List.map_const', List.sum_replicate_nat]

/-- **Among blocks of one length**, the member `j` of block `i` stands at `i * n + j`. -/
theorem getElem?_flatten (h : ∀ block ∈ blocks, block.length = n) (i : Nat) {j : Nat}
    (hj : j < n) : blocks.flatten[i * n + j]? = blocks[i]?.bind (·[j]?) := by
  induction blocks generalizing i with
  | nil => rfl
  | cons block rest ih =>
    obtain ⟨hblock, hrest⟩ := List.forall_mem_cons.1 h
    rw [List.flatten_cons]
    cases i with
    | zero =>
      rw [Nat.zero_mul, Nat.zero_add, List.getElem?_append_left (by omega)]
      rfl
    | succ i =>
      have hindex : (i + 1) * n + j = block.length + (i * n + j) := by
        rw [hblock, Nat.succ_mul]
        omega
      rw [hindex, List.getElem?_append_right (by omega), Nat.add_sub_cancel_left, ih hrest]
      rfl

theorem stretch_eq_flatten (n : Nat) (xs : List α) :
    stretch n xs = (xs.map (List.replicate n)).flatten :=
  List.flatMap_def

theorem length_of_mem_map_replicate (n : Nat) (xs : List α) :
    ∀ block ∈ xs.map (List.replicate n), block.length = n :=
  List.forall_mem_map.2 fun _ _ => List.length_replicate

@[simp] theorem length_stretch (n : Nat) (xs : List α) :
    (stretch n xs).length = xs.length * n := by
  rw [stretch_eq_flatten, length_flatten (length_of_mem_map_replicate n xs), List.length_map]

@[simp] theorem stretch_one (xs : List α) : stretch 1 xs = xs := List.flatMap_singleton' xs

/-- What stands in a stretched list stood in the list. -/
theorem mem_of_mem_stretch {x : α} {xs : List α} (h : x ∈ stretch n xs) : x ∈ xs := by
  obtain ⟨y, hy, hx⟩ := List.mem_flatMap.1 h
  rwa [List.eq_of_mem_replicate hx]

/-- **Where a member of a stretched list comes from.** -/
theorem getElem?_stretch (hn : 0 < n) (xs : List α) (i : Nat) :
    (stretch n xs)[i]? = xs[i / n]? := by
  have hmod : i % n < n := Nat.mod_lt i hn
  have hindex := getElem?_flatten (length_of_mem_map_replicate n xs) (i / n) hmod
  rw [Nat.div_add_mod'] at hindex
  rw [stretch_eq_flatten, hindex, List.getElem?_map]
  cases xs[i / n]? with
  | none => rfl
  | some x => rw [Option.map_some, Option.bind_some, List.getElem?_replicate_of_lt hmod]

/-! ## Texels, lines and pictures -/

variable {rows : List (List UInt8)} {row : List UInt8} {width scale : Nat}

/-- A texel is four bytes. -/
theorem length_of_mem_stretch_texel (row : List UInt8) :
    ∀ t ∈ stretch scale (row.map texel), t.length = 4 := by
  intro t ht
  obtain ⟨v, -, rfl⟩ := List.mem_map.1 (mem_of_mem_stretch ht)
  rfl

theorem length_lineBytes (hrow : row.length = width) :
    (lineBytes scale (row.map texel)).length = width * scale * 4 := by
  rw [lineBytes, length_flatten (length_of_mem_stretch_texel row), length_stretch,
    List.length_map, hrow]

/-- **The bytes of a line**: channel `q` in column `c` is of the pixel in column
`c / scale`. -/
theorem getElem?_lineBytes (hscale : 0 < scale) (row : List UInt8) (c : Nat) {q : Nat}
    (hq : q < 4) :
    (lineBytes scale (row.map texel))[c * 4 + q]?
      = row[c / scale]?.bind fun v => (texel v)[q]? := by
  rw [lineBytes, getElem?_flatten (length_of_mem_stretch_texel row) c hq,
    getElem?_stretch hscale, List.getElem?_map]
  cases row[c / scale]? <;> rfl

/-- **Nothing is special about scale one**: it stretches like any other. -/
theorem render_eq_stretch (rows : List (List UInt8)) (scale : Nat) :
    render rows scale
      = (stretch scale ((texels rows).map (lineBytes scale))).flatten := by
  unfold render
  split
  next h =>
    subst h
    have hline : lineBytes 1 = List.flatten := funext fun line => by rw [lineBytes, stretch_one]
    rw [stretch_one, hline]
  · rfl

/-- The lines of a picture have one length. -/
theorem length_of_mem_lines (hrows : ∀ row ∈ rows, row.length = width) :
    ∀ line ∈ stretch scale ((texels rows).map (lineBytes scale)),
      line.length = width * scale * 4 := by
  intro line hline
  obtain ⟨texels, htexels, rfl⟩ := List.mem_map.1 (mem_of_mem_stretch hline)
  obtain ⟨row, hrow, rfl⟩ := List.mem_map.1 htexels
  exact length_lineBytes (hrows row (List.mem_reverse.1 hrow))

theorem length_render (hrows : ∀ row ∈ rows, row.length = width) (scale : Nat) :
    (render rows scale).length = rows.length * scale * (width * scale) * 4 := by
  rw [render_eq_stretch, length_flatten (length_of_mem_lines hrows), length_stretch,
    List.length_map, texels, List.length_map, List.length_reverse]
  simp only [Nat.mul_assoc]

/-- **The bytes of a picture**: channel `q` in line `l` and column `c` is of the pixel in line
`l / scale` from the bottom and column `c / scale`. -/
theorem getElem?_render (hscale : 0 < scale) (hrows : ∀ row ∈ rows, row.length = width)
    (l : Nat) {c q : Nat} (hc : c < width * scale) (hq : q < 4) :
    (render rows scale)[(l * (width * scale) + c) * 4 + q]?
      = rows.reverse[l / scale]?.bind fun row => row[c / scale]?.bind fun v => (texel v)[q]? := by
  have hindex : (l * (width * scale) + c) * 4 + q = l * (width * scale * 4) + (c * 4 + q) := by
    rw [Nat.add_mul, Nat.mul_assoc l]
    omega
  rw [render_eq_stretch, hindex, getElem?_flatten (length_of_mem_lines hrows) l (by omega),
    getElem?_stretch hscale, List.getElem?_map, texels, List.getElem?_map]
  cases rows.reverse[l / scale]? with
  | none => rfl
  | some row => exact getElem?_lineBytes hscale row c hq

/-! ## Room -/

theorem bytesOf_le {width width' height height' : Nat} (hwidth : width ≤ width')
    (hheight : height ≤ height') : bytesOf width height ≤ bytesOf width' height' :=
  Nat.mul_le_mul_right 4 (Nat.mul_le_mul (by omega) (by omega))

/-- Room for the picture is room enough. -/
theorem checkRoom_of_le {width height scale : Nat} (hscale : 0 < scale)
    (hcount : scale ≤ Room.maxCount)
    (hroom : bytesOf (width * scale) (height * scale) ≤ Room.most) :
    checkRoom width height scale = .ok scale := by
  have hdown : bytesOf width (height * scale) ≤ Room.most :=
    (bytesOf_le (Nat.le_mul_of_pos_right width hscale) le_rfl).trans hroom
  unfold checkRoom
  split
  next hone => exact congrArg Except.ok (by omega)
  · simp only [Room.count_ofNat hcount, bind, Except.bind, Room.take_of_le hdown,
      Room.take_of_le hroom]
    rfl

/-- The scale that is let through is the one asked for. -/
theorem eq_of_checkRoom {width height scale n : Nat}
    (h : checkRoom width height scale = .ok n) : n = scale := by
  unfold checkRoom at h
  split at h
  next hone =>
    have := Except.ok.inj h
    omega
  · cases hcount : Room.count scale with
    | error e =>
      rw [hcount] at h
      cases h
    | ok k =>
      rw [hcount] at h
      simp only [bind, Except.bind] at h
      split at h
      · cases h
      · split at h
        · cases h
        · rw [← Except.ok.inj h, Room.eq_of_count hcount]

end ChipEight.Picture

namespace ChipEight

/-! ## Grids -/

open Picture (render renderWithin texel texels lineBytes stretch bytesOf)

/-- Pixel values, line by line from the top. -/
abbrev Grid (height width : Nat) := Vector (Vector UInt8 width) height

namespace Grid

variable {height width scale : Nat} {g g' : Grid height width}

def rows (g : Grid height width) : List (List UInt8) := g.toList.map Vector.toList

def pixel (g : Grid height width) (r : Fin height) (c : Fin width) : UInt8 := (g.get r).get c

theorem ext_pixel (h : ∀ r c, g.pixel r c = g'.pixel r c) : g = g' :=
  Vector.ext fun r hr => Vector.ext fun c hc => h ⟨r, hr⟩ ⟨c, hc⟩

@[simp] theorem length_rows (g : Grid height width) : g.rows.length = height := by
  rw [rows, List.length_map, Vector.length_toList]

theorem length_of_mem_rows (g : Grid height width) : ∀ row ∈ g.rows, row.length = width :=
  List.forall_mem_map.2 fun _ _ => Vector.length_toList

/-- The lines from the bottom up. -/
theorem getElem?_reverse_rows (g : Grid height width) (r : Fin height) :
    g.rows.reverse[(r : Nat)]? = some (g.get r.rev).toList := by
  have hr : (r : Nat) < g.rows.length := by rw [length_rows]; exact r.isLt
  have hrev : g.rows.length - 1 - r = r.rev := by rw [length_rows, Fin.val_rev]; omega
  rw [List.getElem?_reverse hr, hrev, rows, List.getElem?_map, Vector.getElem?_toList,
    Vector.getElem?_eq_getElem r.rev.isLt]
  rfl

/-- **The bytes of a grid**: channel `q` in line `R` from the bottom and column `C` is of the
pixel in line `height - 1 - R / scale` from the top and column `C / scale`. -/
theorem getElem?_render (hscale : 0 < scale) (g : Grid height width) (R : Fin (height * scale))
    (C : Fin (width * scale)) (q : Fin 4) :
    (render g.rows scale)[(R * (width * scale) + C) * 4 + q]?
      = (texel (g.pixel R.divNat.rev C.divNat))[(q : Nat)]? := by
  have hrow : g.rows.reverse[(R : Nat) / scale]? = some (g.get R.divNat.rev).toList :=
    g.getElem?_reverse_rows R.divNat
  have hcolumn : (C : Nat) / scale < width := C.divNat.isLt
  rw [Picture.getElem?_render hscale g.length_of_mem_rows R C.isLt q.isLt, hrow,
    Option.bind_some, Vector.getElem?_toList, Vector.getElem?_eq_getElem hcolumn]
  rfl

/-- A channel is 255 times the value, what is over a byte left out; the last one is full. -/
theorem getElem?_texel (v : UInt8) (q : Fin 4) :
    ((texel v)[(q : Nat)]?).map UInt8.toNat
      = some (if q = 3 then 255 else v.toNat * 255 % 256) := by
  have hchannel : (v * 255).toNat = v.toNat * 255 % 256 := UInt8.toNat_mul v 255
  rw [← hchannel]
  match q with
  | 0 | 1 | 2 | 3 => rfl

/-- **The bytes tell the grid.** -/
theorem render_inj (hscale : 0 < scale) (h : render g.rows scale = render g'.rows scale) :
    g = g' := by
  refine ext_pixel fun r c => ?_
  -- the lower left texel of the pixel's block
  let R : Fin (height * scale) := ⟨r.rev * scale, Nat.mul_lt_mul_of_pos_right r.rev.isLt hscale⟩
  let C : Fin (width * scale) := ⟨c * scale, Nat.mul_lt_mul_of_pos_right c.isLt hscale⟩
  have hR : R.divNat.rev = r := by
    rw [show R.divNat = r.rev from Fin.ext (Nat.mul_div_cancel _ hscale), Fin.rev_rev]
  have hC : C.divNat = c := Fin.ext (Nat.mul_div_cancel _ hscale)
  have hbytes := g.getElem?_render hscale R C 0
  rw [h, g'.getElem?_render hscale R C 0, hR, hC] at hbytes
  have hchannel : g'.pixel r c * 255 = g.pixel r c * 255 := Option.some.inj hbytes
  grind

theorem widthOf_rows_le (g : Grid height width) : Picture.widthOf g.rows ≤ width := by
  rw [Picture.widthOf]
  cases hrow : g.rows.head? with
  | none => exact Nat.zero_le width
  | some row => exact (g.length_of_mem_rows row (List.mem_of_head? hrow)).le

/-- **Rendering is refused for want of room alone.** -/
theorem renderWithin_of_le (hscale : 0 < scale) (g : Grid height width)
    (hcount : scale ≤ Room.maxCount)
    (hroom : bytesOf (width * scale) (height * scale) ≤ Room.most) :
    renderWithin g.rows scale = .ok (render g.rows scale) := by
  have hwidth := Picture.bytesOf_le (Nat.mul_le_mul_right scale g.widthOf_rows_le)
    (le_refl (height * scale))
  rw [renderWithin, length_rows, Picture.checkRoom_of_le hscale hcount (hwidth.trans hroom)]
  rfl

theorem eq_render_of_renderWithin {rows : List (List UInt8)} {bytes : List UInt8}
    (h : renderWithin rows scale = .ok bytes) : bytes = render rows scale := by
  rw [renderWithin] at h
  cases hroom : Picture.checkRoom (Picture.widthOf rows) rows.length scale with
  | error e =>
    rw [hroom] at h
    cases h
  | ok n =>
    rw [hroom] at h
    rw [← Picture.eq_of_checkRoom hroom]
    exact (Except.ok.inj h).symm

/-- **Rendering puts every pixel in its block.** A picture has four bytes for each texel. In
line `R` from the bottom and column `C` stands the pixel of line `height - 1 - R / scale` from
the top and column `C / scale`: three channels of 255 times its value in a byte, and a full
one. Scale one is no exception to how the others are stretched, no two grids have the same
bytes, and if there is room for them the bytes are given and no others ever. -/
theorem render_blocks (hscale : 1 ≤ scale) (g : Grid height width) :
    (render g.rows scale).length = height * scale * (width * scale) * 4 ∧
    (∀ (R : Fin (height * scale)) (C : Fin (width * scale)) (q : Fin 4),
      ((render g.rows scale)[(R * (width * scale) + C) * 4 + q]?).map UInt8.toNat
        = some (if q = 3 then 255
            else (g.pixel R.divNat.rev C.divNat).toNat * 255 % 256)) ∧
    render g.rows scale = (stretch scale ((texels g.rows).map (lineBytes scale))).flatten ∧
    (∀ g' : Grid height width, render g.rows scale = render g'.rows scale → g = g') ∧
    (scale ≤ Room.maxCount → bytesOf (width * scale) (height * scale) ≤ Room.most →
      renderWithin g.rows scale = .ok (render g.rows scale)) ∧
    ∀ bytes, renderWithin g.rows scale = .ok bytes → bytes = render g.rows scale := by
  refine ⟨?_, fun R C q => ?_, Picture.render_eq_stretch g.rows scale, fun g' => render_inj hscale,
    g.renderWithin_of_le hscale, fun bytes => eq_render_of_renderWithin⟩
  · rw [Picture.length_render g.length_of_mem_rows, length_rows]
  · rw [g.getElem?_render hscale, getElem?_texel]

/-- Two lines of three pixels, one of the top line lit. -/
def litAbove (column : Fin 3) : Grid 2 3 :=
  Vector.ofFn fun r => Vector.ofFn fun c => if r = 0 ∧ c = column then 1 else 0

/-- With the first pixel lit, at scale two the first two columns are white in the last two of
the four lines and dark in those before. -/
theorem render_blocks_litAbove :
    (render (litAbove 0).rows 2).length = 4 * 6 * 4 ∧
    ((render (litAbove 0).rows 2)[(3 * 6 + 1) * 4 + 2]?).map UInt8.toNat = some 255 ∧
    ((render (litAbove 0).rows 2)[(1 * 6 + 1) * 4 + 2]?).map UInt8.toNat = some 0 ∧
    renderWithin (litAbove 0).rows 2 = .ok (render (litAbove 0).rows 2) ∧
    render (litAbove 0).rows 2 ≠ render (litAbove 1).rows 2 := by
  obtain ⟨hlength, hbytes, -, hinj, hroom, -⟩ :=
    render_blocks (show 1 ≤ 2 by decide) (litAbove 0)
  have hlit := hbytes ⟨3, by decide⟩ ⟨1, by decide⟩ 2
  have hdark := hbytes ⟨1, by decide⟩ ⟨1, by decide⟩ 2
  have hne : litAbove 0 ≠ litAbove 1 := by decide
  exact ⟨hlength, hlit.trans (by decide), hdark.trans (by decide), hroom (by decide) (by decide),
    fun h => hne (hinj _ h)⟩

end Grid

/-! ## Screens -/

/-- A screen as a grid: one for a lit pixel. -/
def Screen.grid (s : Screen 64 32) : Grid 32 64 :=
  s.pixels.map fun line => line.map fun lit => if lit then 1 else 0

theorem Screen.pixels_eq_of_grid {s s' : Screen 64 32} (h : s.grid = s'.grid) :
    s.pixels = s'.pixels := by
  have hlit (lit lit' : Bool) (h : (if lit then 1 else 0 : UInt8) = if lit' then 1 else 0) :
      lit = lit' := by
    revert lit lit'
    decide
  exact (Vector.map_inj_right fun _ _ hline => (Vector.map_inj_right hlit).1 hline).1 h

theorem Window.pixelsOf_eq_rows (s : Screen 64 32) : pixelsOf s = s.grid.rows := by
  rw [pixelsOf, Grid.rows, Screen.grid, Vector.toList_map, List.map_map]
  exact List.map_congr_left fun line _ => Vector.toList_map.symm

/-- **What is shown tells the screen.** -/
theorem Window.pixels_eq_of_picture {w w' : Window} (hpos : 0 < w.scale)
    (hscale : w.scale = w'.scale) (h : w.picture = w'.picture) :
    w.machine.screen.pixels = w'.machine.screen.pixels := by
  rw [picture, picture, ← hscale, pixelsOf_eq_rows, pixelsOf_eq_rows] at h
  exact Screen.pixels_eq_of_grid (Grid.render_inj hpos h)

end ChipEight
