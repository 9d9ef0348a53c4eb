/-
# What a draw does to each pixel

A draw goes over the rows and the bits of a sprite and stops at two edges. Pixel by
pixel it is simpler: a pixel is flipped exactly if the sprite has a set bit over it
(`Screen.Covers`), and the draw reports a collision exactly if one of these pixels was
lit (`Screen.isLit_draw`, `Screen.hit_draw`). The two loops are followed from the inside
out, a line first (`getElem_stampBits`) and then the grid (`getElem_stamp`); in both of
them a pixel that has been flipped is not met again, so what a later bit finds is what
was there before the draw.
-/

import ChipEight.Proofs.Wide.Pixels
import ChipEight.Screen.Host

namespace ChipEight.Screen

variable {width height : Nat}

/-- The pixel in a row and a column is lit. -/
def isLit (s : Screen width height) (r : Fin height) (c : Fin width) : Bool := s.pixels[r][c]

/-- A sprite drawn at `(x, y)`, a point that is first wrapped into the grid, has a set
bit over the pixel in row `r` and column `c`. -/
def Covers (width height : Nat) (x y : Int) (rows : List Int) (r c : Nat) : Prop :=
  let dx : Int := c - x % width
  let dy : Int := r - y % height
  (0 ≤ dx ∧ dx < 8) ∧ (0 ≤ dy ∧ dy < rows.length)
    ∧ (rows.getD dy.toNat 0).testBit (7 - dx).toNat = true

instance (x y : Int) (rows : List Int) (r c : Nat) : Decidable (Covers width height x y rows r c) :=
  inferInstanceAs (Decidable (_ ∧ _ ∧ _))

/-- The bits of a row are those of its two's complement. -/
theorem rowBit_eq_testBit (row : Int) (i : Nat) : rowBit row i = row.testBit i := by
  rw [rowBit, Nat.pow_eq]
  cases row with
  | ofNat n =>
    rw [Int.testBit, Nat.testBit_eq_decide_div_mod_eq, decide_eq_decide, Int.ofNat_eq_natCast]
    omega
  | negSucc n =>
    have hdiv : Int.negSucc n / (2 ^ i : Nat) = -((n / 2 ^ i : Nat) + 1) :=
      Int.negSucc_ediv n (Int.natCast_pos.2 (Nat.two_pow_pos i))
    rw [Int.testBit, Nat.testBit_eq_decide_div_mod_eq, hdiv, ← decide_not, decide_eq_decide]
    omega

/-- The bits `count - 1` … `0` of a row whose next column is `column` have a set one over
column `c`. -/
def bitsCover (column : Nat) (row : Int) (count c : Nat) : Bool :=
  decide (column ≤ c ∧ c < column + count) && rowBit row (column + count - 1 - c)

/-- A sprite with its corner in `column` and `line` has a set bit over the pixel in row
`r` and column `c`. -/
def rowsCover (column line : Nat) (rows : List Int) (r c : Nat) : Bool :=
  decide (line ≤ r) && (rows[r - line]?).any fun row => bitsCover column row 8 c

theorem getElem_flip (dots : Vector Bool width) (column : Nat) {c : Nat} (hc : c < width) :
    (flip dots column).1[c] = (dots[c] ^^ decide (c = column)) := by
  unfold flip
  split
  next h =>
    rw [Vector.getElem_set]
    by_cases he : column = c
    · subst he
      simp
    · simp [he, Ne.symm he]
  next h =>
    have he : c ≠ column := by omega
    simp [he]

theorem flip_snd (dots : Vector Bool width) (column : Nat) :
    (flip dots column).2 = true ↔ ∃ h : column < width, dots[column] = true := by
  unfold flip
  split
  next h => exact ⟨fun hd => ⟨h, hd⟩, fun ⟨_, hd⟩ => hd⟩
  next h => simp [h]

theorem bitsCover_zero (column : Nat) (row : Int) (c : Nat) : bitsCover column row 0 c = false := by
  rw [bitsCover, decide_eq_false (by omega), Bool.false_and]

theorem bitsCover_of_lt {column c : Nat} (h : c < column) (row : Int) (count : Nat) :
    bitsCover column row count c = false := by
  rw [bitsCover, decide_eq_false (by omega), Bool.false_and]

/-- The leftmost bit lies over its own column, and the others over those behind it. -/
theorem bitsCover_succ (column : Nat) (row : Int) (count c : Nat) :
    bitsCover column row (count + 1) c
      = ((rowBit row count && decide (c = column)) ^^ bitsCover (column + 1) row count c) := by
  unfold bitsCover
  obtain h | rfl | h := Nat.lt_trichotomy c column
  · rw [decide_eq_false (show ¬ (column ≤ c ∧ c < column + (count + 1)) by omega),
      decide_eq_false (show ¬ c = column by omega),
      decide_eq_false (show ¬ (column + 1 ≤ c ∧ c < column + 1 + count) by omega)]
    simp
  · have hb : c + (count + 1) - 1 - c = count := by omega
    rw [hb, decide_eq_true (show c ≤ c ∧ c < c + (count + 1) by omega),
      decide_eq_false (show ¬ (c + 1 ≤ c ∧ c < c + 1 + count) by omega)]
    simp
  · have hb : column + (count + 1) - 1 - c = column + 1 + count - 1 - c := by omega
    have hd : decide (column ≤ c ∧ c < column + (count + 1))
        = decide (column + 1 ≤ c ∧ c < column + 1 + count) := by
      rw [decide_eq_decide]
      omega
    rw [hb, hd, decide_eq_false (show ¬ c = column by omega)]
    simp

/-- A bit that is set flips the pixel in its column. -/
theorem getElem_stampBit (cells : Vector Bool width) (column : Nat) (b : Bool) {c : Nat}
    (hc : c < width) :
    (if b then flip cells column else (cells, false)).1[c]
      = (cells[c] ^^ (b && decide (c = column))) := by
  cases b
  · simp
  · simp [getElem_flip]

theorem stampBit_snd (cells : Vector Bool width) (column : Nat) (b : Bool) :
    (if b then flip cells column else (cells, false)).2 = true
      ↔ b = true ∧ ∃ h : column < width, cells[column] = true := by
  cases b
  · simp
  · simp [flip_snd]

/-- **A row flips the pixels of a line that its bits cover.** -/
theorem getElem_stampBits (cells : Vector Bool width) (column : Nat) (row : Int) (count : Nat)
    {c : Nat} (hc : c < width) :
    (stampBits cells column row count).1[c] = (cells[c] ^^ bitsCover column row count c) := by
  induction count generalizing cells column with
  | zero => simp [stampBits, bitsCover_zero]
  | succ count ih =>
    simp only [stampBits]
    rw [ih, getElem_stampBit, bitsCover_succ, Bool.xor_assoc]

/-- **A row meets a lit pixel if its bits cover one.** Behind the first column the line is
still what it was when the other bits come to it. -/
theorem stampBits_snd (cells : Vector Bool width) (column : Nat) (row : Int) (count : Nat) :
    (stampBits cells column row count).2 = true
      ↔ ∃ c, ∃ hc : c < width, bitsCover column row count c = true ∧ cells[c] = true := by
  induction count generalizing cells column with
  | zero => simp [stampBits, bitsCover_zero]
  | succ count ih =>
    have hbehind : bitsCover (column + 1) row count column = false :=
      bitsCover_of_lt (Nat.lt_succ_self column) row count
    simp only [stampBits, Bool.or_eq_true]
    rw [ih, stampBit_snd]
    constructor
    · rintro (⟨hb, hc, hl⟩ | ⟨c, hc, hb, hl⟩)
      · refine ⟨column, hc, ?_, hl⟩
        simp [bitsCover_succ, hb, hbehind]
      · have hne : c ≠ column := by
          rintro rfl
          rw [hbehind] at hb
          cases hb
        refine ⟨c, hc, ?_, ?_⟩
        · simp [bitsCover_succ, hb, hne]
        · simpa [getElem_stampBit, hne] using hl
    · rintro ⟨c, hc, hb, hl⟩
      by_cases he : c = column
      · subst he
        refine .inl ⟨?_, hc, hl⟩
        simpa [bitsCover_succ, hbehind] using hb
      · refine .inr ⟨c, hc, ?_, ?_⟩
        · simpa [bitsCover_succ, he] using hb
        · simpa [getElem_stampBit, he] using hl

theorem rowsCover_nil (column line r c : Nat) : rowsCover column line [] r c = false := by
  simp [rowsCover]

theorem rowsCover_of_lt {line r : Nat} (h : r < line) (column : Nat) (rows : List Int) (c : Nat) :
    rowsCover column line rows r c = false := by
  rw [rowsCover, decide_eq_false (by omega), Bool.false_and]

/-- The first row of a sprite lies over its own line, and the others over those below it. -/
theorem rowsCover_cons (column line : Nat) (row : Int) (rows : List Int) (r c : Nat) :
    rowsCover column line (row :: rows) r c
      = ((decide (r = line) && bitsCover column row 8 c)
        ^^ rowsCover column (line + 1) rows r c) := by
  obtain h | rfl | h := Nat.lt_trichotomy r line
  · rw [rowsCover_of_lt h, rowsCover_of_lt (by omega), decide_eq_false (by omega)]
    rfl
  · rw [rowsCover_of_lt (Nat.lt_succ_self r)]
    simp [rowsCover]
  · have hr : r - line = r - (line + 1) + 1 := by omega
    rw [rowsCover, rowsCover, hr, List.getElem?_cons_succ,
      decide_eq_true (show line ≤ r by omega), decide_eq_true (show line + 1 ≤ r by omega),
      decide_eq_false (show ¬ r = line by omega)]
    simp

variable (pixels : Vector (Vector Bool width) height)

/-- **A sprite flips the pixels of a grid that its rows cover.** -/
theorem getElem_stamp (column line : Nat) (rows : List Int) {r c : Nat} (hr : r < height)
    (hc : c < width) :
    (stamp pixels column line rows).1[r][c]
      = (pixels[r][c] ^^ rowsCover column line rows r c) := by
  induction rows generalizing pixels line with
  | nil => simp [stamp, rowsCover_nil]
  | cons row rows ih =>
    rw [stamp]
    split
    next h =>
      simp only
      rw [ih, rowsCover_cons]
      by_cases he : line = r
      · subst he
        simp [getElem_stampBits, rowsCover_of_lt]
      · simp [Vector.getElem_set_ne, he, Ne.symm he]
    next h => simp [rowsCover_of_lt (show r < line by omega)]

/-- **A sprite meets a lit pixel if its rows cover one.** Below its first line the grid is
still what it was when the other rows come to it. -/
theorem stamp_snd (column line : Nat) (rows : List Int) :
    (stamp pixels column line rows).2 = true
      ↔ ∃ r c, ∃ hr : r < height, ∃ hc : c < width,
        rowsCover column line rows r c = true ∧ pixels[r][c] = true := by
  induction rows generalizing pixels line with
  | nil => simp [stamp, rowsCover_nil]
  | cons row rows ih =>
    rw [stamp]
    split
    next h =>
      simp only [Bool.or_eq_true]
      rw [ih, stampBits_snd]
      constructor
      · rintro (⟨c, hc, hb, hl⟩ | ⟨r, c, hr, hc, hb, hl⟩)
        · refine ⟨line, c, h, hc, ?_, hl⟩
          simp [rowsCover_cons, hb, rowsCover_of_lt]
        · have hne : line ≠ r := by
            rintro rfl
            rw [rowsCover_of_lt (Nat.lt_succ_self line)] at hb
            cases hb
          refine ⟨r, c, hr, hc, ?_, ?_⟩
          · simp [rowsCover_cons, hb, Ne.symm hne]
          · simpa [Vector.getElem_set_ne, hne] using hl
      · rintro ⟨r, c, hr, hc, hb, hl⟩
        by_cases he : line = r
        · subst he
          refine .inl ⟨c, hc, ?_, hl⟩
          simpa [rowsCover_cons, rowsCover_of_lt] using hb
        · refine .inr ⟨r, c, hr, hc, ?_, ?_⟩
          · simpa [rowsCover_cons, Ne.symm he] using hb
          · simpa [Vector.getElem_set_ne, he] using hl
    next h =>
      constructor
      · intro hf
        cases hf
      · rintro ⟨r, c, hr, hc, hb, -⟩
        rw [rowsCover_of_lt (by omega)] at hb
        cases hb

theorem rowsCover_eq_true {column line : Nat} {rows : List Int} {r c : Nat} :
    rowsCover column line rows r c = true
      ↔ (column ≤ c ∧ c < column + 8) ∧ (line ≤ r ∧ r < line + rows.length)
        ∧ (rows.getD (r - line) 0).testBit (column + 7 - c) = true := by
  by_cases hr : line ≤ r ∧ r < line + rows.length
  · have hlt : r - line < rows.length := by omega
    simp [rowsCover, bitsCover, rowBit_eq_testBit, hr, hlt]
  · have hcover : rowsCover column line rows r c = false := by
      rw [rowsCover]
      by_cases hl : line ≤ r
      · rw [List.getElem?_eq_none (by omega)]
        simp
      · rw [decide_eq_false hl, Bool.false_and]
    simp [hcover, hr]

/-- The corner is wrapped into the grid first. -/
theorem covers_iff (hw : 0 < width) (hh : 0 < height) {x y : Int} {rows : List Int} {r c : Nat} :
    Covers width height x y rows r c
      ↔ rowsCover (x % width).toNat (y % height).toNat rows r c = true := by
  obtain ⟨column, hx⟩ := Int.eq_ofNat_of_zero_le (Int.emod_nonneg x (b := width) (by omega))
  obtain ⟨line, hy⟩ := Int.eq_ofNat_of_zero_le (Int.emod_nonneg y (b := height) (by omega))
  rw [rowsCover_eq_true, Covers, hx, hy, Int.toNat_natCast, Int.toNat_natCast]
  have hd : ((r : Int) - line).toNat = r - line := by omega
  have hb : c < column + 8 → (7 - ((c : Int) - column)).toNat = column + 7 - c := by omega
  simp only [hd]
  constructor
  · rintro ⟨hc, hr, ht⟩
    rw [hb (by omega)] at ht
    exact ⟨by omega, by omega, ht⟩
  · rintro ⟨hc, hr, ht⟩
    rw [← hb hc.2] at ht
    exact ⟨by omega, by omega, ht⟩

variable (s : Screen width height) (x y : Int) (rows : List Int)

/-- **A draw flips the pixels that the sprite covers**, and no others. -/
theorem isLit_draw (r : Fin height) (c : Fin width) :
    (s.draw x y rows).1.isLit r c
      = if Covers width height x y rows r c then !s.isLit r c else s.isLit r c := by
  have hw : 0 < width := Nat.zero_lt_of_lt c.isLt
  have hh : 0 < height := Nat.zero_lt_of_lt r.isLt
  have hs : (s.draw x y rows).1.isLit r c = (s.isLit r c ^^ rowsCover _ _ rows r c) :=
    getElem_stamp s.pixels (x % width).toNat (y % height).toNat rows r.isLt c.isLt
  rw [hs, if_congr (covers_iff hw hh) rfl rfl]
  cases rowsCover _ _ rows r c <;> simp

/-- **A draw reports a collision if the sprite covers a lit pixel**, and only then. -/
theorem hit_draw :
    (s.draw x y rows).2 = true
      ↔ ∃ (r : Fin height) (c : Fin width), Covers width height x y rows r c ∧ s.isLit r c = true := by
  have hs : (s.draw x y rows).2 = true ↔ _ :=
    stamp_snd s.pixels (x % width).toNat (y % height).toNat rows
  rw [hs]
  constructor
  · rintro ⟨r, c, hr, hc, hb, hl⟩
    exact ⟨⟨r, hr⟩, ⟨c, hc⟩, (covers_iff (Nat.zero_lt_of_lt hc) (Nat.zero_lt_of_lt hr)).2 hb, hl⟩
  · rintro ⟨r, c, hb, hl⟩
    exact ⟨r, c, r.isLt, c.isLt,
      (covers_iff (Nat.zero_lt_of_lt c.isLt) (Nat.zero_lt_of_lt r.isLt)).1 hb, hl⟩

theorem leadingRows_ints : leadingRows (rows.map .int) = rows := by
  induction rows with
  | nil => rfl
  | cons row rows ih =>
    have hcons : leadingRows (.int row :: rows.map .int) = row :: leadingRows (rows.map .int) := rfl
    rw [List.map_cons, hcons, ih]

/-- **A host's rows of integers are drawn**, on every grid that has pixels. -/
theorem drawHost_ints (hw : 0 < width) (hh : 0 < height) :
    s.drawHost x y (.list (rows.map .int)) = ((s.draw x y rows).1, .ok (s.draw x y rows).2) := by
  have hpixels : ¬ (width = 0 ∨ height = 0) := by omega
  rw [drawHost, if_neg hpixels]
  simp [Value.items?, leadingRows_ints]

/-- **A draw is what it is pixel by pixel.** On every grid that has pixels it succeeds; it
flips the pixels under the set bits of the sprite, whose corner is wrapped into the grid,
and no others, so nothing goes around an edge. It reports whether one of these pixels was
lit, and marks the screen. On plain numbers it does the same, and they stay bits. -/
theorem draw_pixelwise {width height : Nat} (hw : 1 ≤ width) (hh : 1 ≤ height)
    (s : Screen width height) (x y : Int) (rows : List Int) :
    ∃ s' hit, s.drawHost x y (.list (rows.map .int)) = (s', .ok hit) ∧
      (∀ r c, s'.isLit r c
        = if Covers width height x y rows r c then !s.isLit r c else s.isLit r c) ∧
      (hit = true ↔ ∃ (r : Fin height) (c : Fin width),
        Covers width height x y rows r c ∧ s.isLit r c = true) ∧
      s'.dirty = true ∧
      Wide.stamp s.wide (x % width).toNat (y % height).toNat rows = (s'.wide, hit) ∧
      s'.wide.length = height ∧
      ∀ dots ∈ s'.wide, dots.length = width ∧ ∀ dot ∈ dots, dot = 0 ∨ dot = 1 := by
  refine ⟨_, _, drawHost_ints s x y rows hw hh, isLit_draw s x y rows, ?_, rfl, ?_, ?_, ?_⟩
  · exact hit_draw s x y rows
  · exact wide_stamp s.pixels _ _ rows
  · exact length_wide _
  · exact fun dots h => mem_wide h

/-- A narrow and low screen with a pixel lit in its last row. -/
def nearCorner : Screen 5 3 := ((blank 5 3).draw 3 2 [0x80]).1

theorem draw_pixelwise_nearCorner :
    1 ≤ 5 ∧ 1 ≤ 3 ∧ ∃ s', nearCorner.drawHost (-2) (-1) (.list ([-1, 0x1FF].map .int))
        = (s', .ok true) ∧
      s'.isLit 2 3 = false ∧ s'.isLit 2 4 = true ∧ s'.isLit 2 0 = false ∧ s'.isLit 0 3 = false := by
  obtain ⟨s', hit, hd, hl, hh, -⟩ :=
    draw_pixelwise (by decide) (by decide) nearCorner (-2) (-1) [-1, 0x1FF]
  obtain rfl : hit = true := hh.2 ⟨2, 3, by decide, by decide⟩
  refine ⟨by decide, by decide, s', hd, ?_, ?_, ?_, ?_⟩ <;>
    · rw [hl]
      decide

end ChipEight.Screen
