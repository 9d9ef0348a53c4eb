/-
# Draws in any order

A draw flips the pixels that its sprite covers (`Screen.isLit_draw`), so after many draws
a pixel has been flipped as often as a sprite covered it, and only whether that number is
odd can be seen (`Screen.isLit_drawAll`). The number does not depend on the order of the
draws (`Screen.drawAll_perm`), and all of them once more make it even
(`Screen.pixels_drawAll_drawAll`): draws commute, and made again in any order they take
the picture back.

The collisions that they report do depend on the order. Of two draws of one sprite the
second meets what the first has flipped, and reports the pixels that were dark before
(`Screen.hit_redraw`).
-/

import ChipEight.Proofs.Drawing
import Mathlib.Data.Nat.Bits

namespace ChipEight.Screen

/-- A sprite, and the point at which it is drawn. -/
structure Sprite where
  x : Int
  y : Int
  rows : List Int
  deriving DecidableEq, Repr

variable {width height : Nat}

/-- The screen after a sprite has been drawn, whatever it hit. -/
def drawSprite (s : Screen width height) (p : Sprite) : Screen width height :=
  (s.draw p.x p.y p.rows).1

/-- The screen after sprites have been drawn one after the other. -/
def drawAll (s : Screen width height) (sprites : List Sprite) : Screen width height :=
  sprites.foldl drawSprite s

/-- How many of the sprites have a set bit over the pixel in row `r` and column `c`. -/
def layers (width height : Nat) (sprites : List Sprite) (r c : Nat) : Nat :=
  sprites.countP fun p => Covers width height p.x p.y p.rows r c

/-- The screen after a host has had sprites drawn one after the other, if none of the
draws is refused. -/
def drawAllHost (s : Screen width height) : List Sprite → Except DrawError (Screen width height)
  | [] => .ok s
  | p :: sprites =>
    match s.drawHost p.x p.y (.list (p.rows.map .int)) with
    | (_, .error e) => .error e
    | (s, .ok _) => s.drawAllHost sprites

variable (s : Screen width height) (sprites : List Sprite)

@[simp] theorem drawAll_nil : s.drawAll [] = s := rfl

@[simp] theorem drawAll_cons (p : Sprite) :
    s.drawAll (p :: sprites) = (s.drawSprite p).drawAll sprites := rfl

/-- **On a grid that has pixels no draw is refused**, and a host's draws come to the same. -/
theorem drawAllHost_eq (hw : 0 < width) (hh : 0 < height) :
    s.drawAllHost sprites = .ok (s.drawAll sprites) := by
  induction sprites generalizing s with
  | nil => rfl
  | cons p sprites ih =>
    rw [drawAllHost, drawHost_ints s p.x p.y p.rows hw hh]
    exact ih (s.drawSprite p)

/-- Two screens on which the same pixels are lit show one picture. -/
theorem pixels_ext {s s' : Screen width height} (h : ∀ r c, s.isLit r c = s'.isLit r c) :
    s.pixels = s'.pixels := by
  apply Vector.ext
  intro r hr
  apply Vector.ext
  intro c hc
  exact h ⟨r, hr⟩ ⟨c, hc⟩

theorem isLit_drawSprite (p : Sprite) (r : Fin height) (c : Fin width) :
    (s.drawSprite p).isLit r c
      = (s.isLit r c ^^ decide (Covers width height p.x p.y p.rows r c)) := by
  have hflip : (s.drawSprite p).isLit r c = if Covers width height p.x p.y p.rows r c
      then !s.isLit r c else s.isLit r c := isLit_draw s p.x p.y p.rows r c
  rw [hflip]
  by_cases hcover : Covers width height p.x p.y p.rows r c
  · simp [hcover]
  · simp [hcover]

theorem bodd_layers_cons (p : Sprite) (r c : Nat) :
    (layers width height (p :: sprites) r c).bodd
      = (decide (Covers width height p.x p.y p.rows r c)
        ^^ (layers width height sprites r c).bodd) := by
  rw [layers, List.countP_cons]
  by_cases hcover : Covers width height p.x p.y p.rows r c
  · simp [hcover, layers]
  · simp [hcover, layers]

/-- **What many draws come to:** a pixel is flipped if an odd number of sprites cover it. -/
theorem isLit_drawAll (r : Fin height) (c : Fin width) :
    (s.drawAll sprites).isLit r c
      = (s.isLit r c ^^ (layers width height sprites r c).bodd) := by
  induction sprites generalizing s with
  | nil => simp [layers]
  | cons p sprites ih => rw [drawAll_cons, ih, isLit_drawSprite, bodd_layers_cons, Bool.xor_assoc]

/-- A draw marks the screen, so it is marked after a row of them unless the row is empty. -/
theorem dirty_drawAll : (s.drawAll sprites).dirty = (s.dirty || !sprites.isEmpty) := by
  induction sprites generalizing s with
  | nil => simp
  | cons p sprites ih =>
    have hmarked : (s.drawSprite p).dirty = true := rfl
    rw [drawAll_cons, ih, hmarked]
    simp

variable {sprites} {sprites' : List Sprite}

/-- **Draws commute.** -/
theorem drawAll_perm (h : sprites'.Perm sprites) : s.drawAll sprites' = s.drawAll sprites := by
  have hpixels : (s.drawAll sprites').pixels = (s.drawAll sprites).pixels := by
    refine pixels_ext fun r c => ?_
    have hlayers : layers width height sprites' r c = layers width height sprites r c :=
      h.countP_eq _
    rw [isLit_drawAll, isLit_drawAll, hlayers]
  have hdirty : (s.drawAll sprites').dirty = (s.drawAll sprites).dirty := by
    rw [dirty_drawAll, dirty_drawAll, h.isEmpty_eq]
  exact (Screen.mk.injEq ..).mpr ⟨hpixels, hdirty⟩

/-- **The same draws once more, in any order, take the picture back.** -/
theorem pixels_drawAll_drawAll (h : sprites'.Perm sprites) :
    ((s.drawAll sprites).drawAll sprites').pixels = s.pixels := by
  rw [drawAll_perm _ h]
  refine pixels_ext fun r c => ?_
  rw [isLit_drawAll, isLit_drawAll, Bool.xor_assoc, Bool.xor_self, Bool.xor_false]

/-- **A second draw of a sprite hits the pixels that were dark before the first.** -/
theorem hit_redraw (x y : Int) (rows : List Int) :
    ((s.draw x y rows).1.draw x y rows).2 = true
      ↔ ∃ (r : Fin height) (c : Fin width),
        Covers width height x y rows r c ∧ s.isLit r c = false := by
  rw [hit_draw]
  refine exists_congr fun r => exists_congr fun c => and_congr_right fun hcover => ?_
  rw [isLit_draw, if_pos hcover, Bool.not_eq_true']

/-- **Draws commute and undo each other.** On every grid that has pixels, a row of draws
succeeds and flips the pixels that an odd number of its sprites cover. In any other order
the draws leave the same screen, and made again in any order they take the picture back.
A sprite drawn twice in a row reports a collision the second time exactly if it covers a
pixel that was dark before. -/
theorem draws_commute {width height : Nat} (hw : 1 ≤ width) (hh : 1 ≤ height)
    (s : Screen width height) :
    (∀ sprites, ∃ s', s.drawAllHost sprites = .ok s' ∧
      (∀ r c, s'.isLit r c = (s.isLit r c ^^ (layers width height sprites r c).bodd)) ∧
      ∀ sprites' : List Sprite, sprites'.Perm sprites → s.drawAllHost sprites' = .ok s' ∧
        ∃ s'', s'.drawAllHost sprites' = .ok s'' ∧ s''.pixels = s.pixels) ∧
    ∀ (x y : Int) (rows : List Int), ∃ s' s'' hit hit',
      s.drawHost x y (.list (rows.map .int)) = (s', .ok hit) ∧
      s'.drawHost x y (.list (rows.map .int)) = (s'', .ok hit') ∧
      (hit' = true ↔ ∃ (r : Fin height) (c : Fin width),
        Covers width height x y rows r c ∧ s.isLit r c = false) := by
  constructor
  · intro sprites
    refine ⟨s.drawAll sprites, drawAllHost_eq s sprites hw hh, isLit_drawAll s sprites, ?_⟩
    intro sprites' hperm
    have horder : s.drawAllHost sprites' = .ok (s.drawAll sprites) := by
      rw [drawAllHost_eq s sprites' hw hh, drawAll_perm s hperm]
    exact ⟨horder, _, drawAllHost_eq _ sprites' hw hh, pixels_drawAll_drawAll s hperm⟩
  · intro x y rows
    exact ⟨_, _, _, _, drawHost_ints s x y rows hw hh, drawHost_ints _ x y rows hw hh,
      hit_redraw s x y rows⟩

/-- Three sprites that overlap near the corner of a small screen, one of them cut off by
both edges and one drawn from a point outside. -/
def overlapping : List Sprite :=
  [⟨3, 2, [0xFF, 0xFF]⟩, ⟨-2, -1, [-1, 0x1FF]⟩, ⟨2, 1, [0x40, 0xE0]⟩]

theorem draws_commute_overlapping :
    1 ≤ 5 ∧ 1 ≤ 3 ∧ overlapping.reverse.Perm overlapping ∧
      ∃ s', nearCorner.drawAllHost overlapping = .ok s' ∧
        nearCorner.drawAllHost overlapping.reverse = .ok s' ∧
        s'.isLit 2 2 = true ∧ s'.isLit 2 3 = false ∧
        (∃ s'', s'.drawAllHost overlapping.reverse = .ok s'' ∧
          s''.pixels = nearCorner.pixels) ∧
        ∃ s₁ s₂ hit, nearCorner.drawHost 3 2 (.list ([0x80].map .int)) = (s₁, .ok hit) ∧
          s₁.drawHost 3 2 (.list ([0x80].map .int)) = (s₂, .ok false) := by
  have hperm : overlapping.reverse.Perm overlapping := List.reverse_perm overlapping
  obtain ⟨hrow, htwice⟩ := draws_commute (by decide) (by decide) nearCorner
  obtain ⟨s', hdrawn, hlit, horder⟩ := hrow overlapping
  obtain ⟨hreverse, hback⟩ := horder overlapping.reverse hperm
  obtain ⟨s₁, s₂, hit, hit', hfirst, hsecond, hhit⟩ := htwice 3 2 [0x80]
  have hnone : hit' = false := by
    rw [← Bool.not_eq_true, hhit]
    decide
  subst hnone
  refine ⟨by decide, by decide, hperm, s', hdrawn, hreverse, ?_, ?_, hback, s₁, s₂, hit, hfirst,
    hsecond⟩
  · rw [hlit]
    decide
  · rw [hlit]
    decide

end ChipEight.Screen
