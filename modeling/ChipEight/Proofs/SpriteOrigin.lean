/-
# Where a draw instruction draws

`Dxyn` draws at a point named by two registers, and clears the flag before it reads
them. So if one of them is the flag itself, the sprite starts at the edge of the screen
(`Machine.originX`, `Machine.originY`) and not at what the register held. The rest is as
it should be: the sprite is the `n` bytes from the index on, of which those below the
bottom edge need not exist (`Machine.isLit_execute_draw`), the flag tells of a pixel that
went dark (`Machine.flag_execute_draw`), and no other register changes.

When does the difference show? A picture that is the same under two draws of one sprite
is the same with that sprite moved once more, and so on over the edge: either the sprite
is not moved at all, or nothing of it is on the screen (`Screen.rowsCover_moved_iff`).
-/

import ChipEight.Proofs.Drawing
import ChipEight.Proofs.Effects
import ChipEight.Proofs.Fault

namespace ChipEight

namespace Screen

variable {column line dx dy r c : Nat} {rows : List Int}

theorem rowsCover_moved (column line dx dy : Nat) (rows : List Int) (r c : Nat) :
    rowsCover (column + dx) (line + dy) rows (r + dy) (c + dx) = rowsCover column line rows r c := by
  have hr : r + dy - (line + dy) = r - line := by omega
  have hb : column + dx + 7 - (c + dx) = column + 7 - c := by omega
  rw [Bool.eq_iff_iff, rowsCover_eq_true, rowsCover_eq_true, hr, hb]
  constructor
  · rintro ⟨hc, hl, ht⟩
    exact ⟨by omega, by omega, ht⟩
  · rintro ⟨hc, hl, ht⟩
    exact ⟨by omega, by omega, ht⟩

/-- What a sprite covers is, moved back, under the sprite moved back. -/
theorem exists_of_rowsCover_moved (h : rowsCover (column + dx) (line + dy) rows r c = true) :
    ∃ r' c', r = r' + dy ∧ c = c' + dx ∧ rowsCover column line rows r' c' = true := by
  obtain ⟨hc, hr, -⟩ := rowsCover_eq_true.1 h
  obtain ⟨r', rfl⟩ := Nat.exists_eq_add_of_le' (show dy ≤ r by omega)
  obtain ⟨c', rfl⟩ := Nat.exists_eq_add_of_le' (show dx ≤ c by omega)
  rw [rowsCover_moved] at h
  exact ⟨r', c', rfl, rfl, h⟩

/-- **A sprite moved right or down covers other pixels**, unless it is not moved at all or
has no set bit on the screen. -/
theorem rowsCover_moved_iff {width height : Nat} :
    (∀ r < height, ∀ c < width,
        rowsCover (column + dx) (line + dy) rows r c = rowsCover column line rows r c) ↔
      (dx = 0 ∧ dy = 0) ∨ ∀ r < height, ∀ c < width, rowsCover column line rows r c = false := by
  constructor
  · intro h
    by_cases hd : dx = 0 ∧ dy = 0
    · exact .inl hd
    · refine .inr fun r hr c hc => ?_
      -- a covered pixel would have another one above it or to its left, without end
      induction hn : r + c using Nat.strong_induction_on generalizing r c with
      | _ n ih =>
        by_contra hcover
        rw [← h r hr c hc, Bool.not_eq_false] at hcover
        obtain ⟨r', c', rfl, rfl, hcover'⟩ := exists_of_rowsCover_moved hcover
        have hdark := ih (r' + c') (by omega) r' (by omega) c' (by omega) rfl
        rw [hdark] at hcover'
        cases hcover'
  · rintro (⟨rfl, rfl⟩ | hnone) r hr c hc
    · rfl
    · rw [hnone r hr c hc]
      by_contra hcover
      rw [Bool.not_eq_false] at hcover
      obtain ⟨r', c', rfl, rfl, hcover'⟩ := exists_of_rowsCover_moved hcover
      rw [hnone r' (by omega) c' (by omega)] at hcover'
      cases hcover'

end Screen

namespace Machine

variable {m m' : Machine} {f : Fields} {pc word next : Nat}

/-- The column at which a draw starts, before it is wrapped: the flag counts as zero. -/
def originX (m : Machine) (f : Fields) : Nat := ((m.setReg flag 0).reg f.x).toNat

/-- The line at which a draw starts, before it is wrapped: the flag counts as zero. -/
def originY (m : Machine) (f : Fields) : Nat := ((m.setReg flag 0).reg f.y).toNat

/-- The rows of a sprite: so many bytes from the index on. -/
def sprite (m : Machine) (count : Nat) : List Int :=
  (List.range count).map fun i => ((m.memory.byte (m.index + i)).toNat : Int)

/-- The machine with a sprite drawn, and the collision kept as the flag. -/
def drawn (m : Machine) (x y : Nat) (rows : List Int) : Machine :=
  { m.setReg flag (flagOf (m.screen.draw x y rows).2) with
    screen := (m.screen.draw x y rows).1 }

/-- Clearing the flag and setting it again in a collision keeps the collision. -/
theorem setReg_flag_of_hit (m : Machine) (screen : Screen 64 32) (hit : Bool) :
    (if hit then { m.setReg flag 0 with screen := screen }.setReg flag 1
      else { m.setReg flag 0 with screen := screen })
      = { m.setReg flag (flagOf hit) with screen := screen } := by
  cases hit
  · rfl
  · simp [setReg, flagOf, Vector.set_set]

/-- Fetches so many rows of a sprite and draws them. -/
def drawRows (m : Machine) (f : Fields) (count : Nat) : Effect :=
  let m := m.setReg flag 0
  match m.memory.readBlock m.index count with
  | .error e => m.fail (.outOfBounds e)
  | .ok rows =>
    let (screen, hit) := m.screen.draw (m.reg f.x).toNat (m.reg f.y).toNat
      (rows.map fun b => (b.toNat : Int))
    let m := { m with screen := screen }
    (if hit then m.setReg flag 1 else m).advance

/-- A draw fetches the rows that are on screen. -/
theorem execute_draw_eq (m : Machine) (f : Fields) :
    m.execute .draw f = m.drawRows f (m.visibleRows f) := rfl

/-- **Rows that are all there are drawn.** -/
theorem drawRows_of_fits {count : Nat} (h : m.index + count ≤ m.memory.size) :
    m.drawRows f count
      = (m.drawn (m.originX f) (m.originY f) (m.sprite count), .ok (m.pc + 2)) := by
  have hrows : (m.memory.block m.index count).map (fun b => (b.toNat : Int))
      = m.sprite count := by
    rw [Memory.block_eq_map h, List.map_map]
    rfl
  have hread : m.memory.readBlock m.index count = .ok (m.memory.block m.index count) :=
    Memory.readBlock_eq_ok.2 ⟨h, rfl⟩
  simp only [drawRows, memory_setReg, index_setReg, hread, hrows]
  exact congrArg advance (m.setReg_flag_of_hit _ _)

/-- **A draw whose rows are all there succeeds**: it draws the rows that are on screen. -/
theorem execute_draw (h : m.index + m.visibleRows f ≤ m.memory.size) :
    m.execute .draw f
      = (m.drawn (m.originX f) (m.originY f) (m.sprite (m.visibleRows f)), .ok (m.pc + 2)) := by
  rw [execute_draw_eq, drawRows_of_fits h]

/-- The picture of the second machine is that of the first with a sprite drawn over it. -/
def Overdrawn (m m' : Machine) (x y : Nat) (rows : List Int) : Prop :=
  ∀ r c, m'.screen.isLit r c
    = if Screen.Covers 64 32 x y rows r c then !m.screen.isLit r c else m.screen.isLit r c

/-- The second machine has a dark pixel where the first has a lit one. -/
def Darkened (m m' : Machine) : Prop :=
  ∃ r c, m.screen.isLit r c = true ∧ m'.screen.isLit r c = false

instance (m m' : Machine) : Decidable (Darkened m m') :=
  inferInstanceAs (Decidable (∃ _, ∃ _, _))

variable {x y x' y' r c : Nat} {rows : List Int}

theorem covers_iff : Screen.Covers 64 32 x y rows r c
    ↔ Screen.rowsCover (x % 64) (y % 32) rows r c = true := by
  have h : Screen.Covers 64 32 x y rows r c ↔ _ := Screen.covers_iff (by decide) (by decide)
  rwa [show ((x : Int) % (64 : Nat)).toNat = x % 64 by omega,
    show ((y : Int) % (32 : Nat)).toNat = y % 32 by omega] at h

/-- **The rows below the bottom edge cover nothing.** -/
theorem covers_sprite_visible (m : Machine) (n : Nat) (hr : r < 32) :
    Screen.Covers 64 32 x y (m.sprite (min n (32 - y % 32))) r c
      ↔ Screen.Covers 64 32 x y (m.sprite n) r c := by
  rw [covers_iff, covers_iff, Screen.rowsCover, Screen.rowsCover]
  by_cases hl : y % 32 ≤ r
  · by_cases hn : r - y % 32 < n
    · have hvisible : r - y % 32 < min n (32 - y % 32) := by omega
      simp [sprite, List.getElem?_range hn, List.getElem?_range hvisible]
    · rw [List.getElem?_eq_none (by simp [sprite]; omega),
        List.getElem?_eq_none (by simp [sprite]; omega)]
  · simp [hl]

theorem overdrawn_drawn (m : Machine) (x y : Nat) (rows : List Int) :
    Overdrawn m (m.drawn x y rows) x y rows :=
  m.screen.isLit_draw x y rows

/-- **The flag tells whether a pixel went dark.** -/
theorem flag_drawn (m : Machine) (x y : Nat) (rows : List Int) :
    (m.drawn x y rows).reg flag = flagOf (decide (Darkened m (m.drawn x y rows))) := by
  have hit : (m.screen.draw x y rows).2 = decide (Darkened m (m.drawn x y rows)) := by
    rw [Bool.eq_iff_iff, decide_eq_true_iff, Screen.hit_draw]
    refine exists_congr fun r => exists_congr fun c => ?_
    rw [overdrawn_drawn m x y rows r c]
    by_cases hcover : Screen.Covers 64 32 x y rows r c
    · simp [hcover]
    · simp [hcover]
  rw [← hit]
  exact reg_setReg_self ..

theorem reg_drawn_of_ne (m : Machine) (x y : Nat) (rows : List Int) {r : Fin 16} (h : r ≠ flag) :
    (m.drawn x y rows).reg r = m.reg r :=
  reg_setReg_of_ne m _ h

/-- Two places for a sprite give one picture exactly if it covers the same pixels. -/
theorem overdrawn_iff (h : Overdrawn m m' x y rows) :
    Overdrawn m m' x' y' rows ↔ ∀ r < 32, ∀ c < 64,
      Screen.rowsCover (x' % 64) (y' % 32) rows r c
        = Screen.rowsCover (x % 64) (y % 32) rows r c := by
  constructor
  · intro h' r hr c hc
    have hboth := (h' ⟨r, hr⟩ ⟨c, hc⟩).symm.trans (h ⟨r, hr⟩ ⟨c, hc⟩)
    rw [Bool.eq_iff_iff, ← covers_iff, ← covers_iff]
    by_cases hcover' : Screen.Covers 64 32 x' y' rows r c <;>
      by_cases hcover : Screen.Covers 64 32 x y rows r c <;>
        simp [hcover, hcover'] at hboth ⊢
  · intro he r c
    rw [h r c]
    refine if_congr ?_ rfl rfl
    rw [covers_iff, covers_iff, he r r.isLt c c.isLt]

/-- Clearing the flag moves what a register names only if the register is the flag. -/
theorem reg_mod_eq (m : Machine) (r : Fin 16) (size : Nat) :
    (m.reg r).toNat % size
      = ((m.setReg flag 0).reg r).toNat % size
        + if r = flag then (m.reg flag).toNat % size else 0 := by
  by_cases h : r = flag
  · subst h
    simp
  · rw [if_neg h, reg_setReg_of_ne m 0 h, Nat.add_zero]

/-- **Drawing where the registers say** is drawing with the flag cleared exactly if the
flag names no place but the edge, or nothing of the sprite is on the screen. -/
theorem overdrawn_named_iff
    (h : Overdrawn m m' (m.originX f) (m.originY f) rows) :
    Overdrawn m m' (m.reg f.x).toNat (m.reg f.y).toNat rows ↔
      ((f.x = flag → (m.reg flag).toNat % 64 = 0) ∧ (f.y = flag → (m.reg flag).toNat % 32 = 0)) ∨
        ∀ (r : Fin 32) (c : Fin 64), ¬ Screen.Covers 64 32 (m.originX f) (m.originY f) rows r c := by
  rw [overdrawn_iff h, reg_mod_eq m f.x, reg_mod_eq m f.y]
  refine Screen.rowsCover_moved_iff.trans (or_congr ?_ ?_)
  · rw [ite_eq_right_iff, ite_eq_right_iff]
  · simp only [covers_iff, Bool.not_eq_true]
    exact ⟨fun hnone r c => hnone r r.isLt c c.isLt, fun hnone r hr c hc => hnone ⟨r, hr⟩ ⟨c, hc⟩⟩

/-- **A step that draws** draws the rows that are on screen, and they are all there. -/
theorem step_draw (hran : m.step.2 = .ran pc word) (hdraw : Opcode.ofWord? word = some .draw) :
    let f := Fields.ofWord word
    m.step.1 = { m.drawn (m.originX f) (m.originY f) (m.sprite (m.visibleRows f)) with
      pc := m.pc + 2
      cycles := m.cycles + 1 } := by
  obtain ⟨m', next, hx, hs⟩ := execute_of_ran_op hran hdraw
  cases hr : Memory.refusal? m.memory.size m.index (m.visibleRows (Fields.ofWord word)) with
  | some e => cases hx.symm.trans (execute_draw_of_some hr)
  | none =>
    cases hx.symm.trans (execute_draw (Memory.refusal?_eq_none.1 hr))
    exact hs

/-- **A draw uses the registers it names, unless that is the flag.** A step that draws
puts the `n` bytes from the index on over the picture, with the flag taken as zero where
it is named; the flag then tells whether a pixel went dark, and no other register changes.
The picture is the one drawn at what the registers held exactly if the flag, where it is
named, held a whole number of screens, or if nothing of the sprite is on the screen. -/
theorem draws_as_named_iff (hran : m.step.2 = .ran pc word)
    (hdraw : Opcode.ofWord? word = some .draw) :
    let f := Fields.ofWord word
    (Overdrawn m m.step.1 (m.reg f.x).toNat (m.reg f.y).toNat (m.sprite f.n) ↔
        ((f.x = flag → (m.reg flag).toNat % 64 = 0) ∧
          (f.y = flag → (m.reg flag).toNat % 32 = 0)) ∨
        ∀ (r : Fin 32) (c : Fin 64),
          ¬ Screen.Covers 64 32 (m.originX f) (m.originY f) (m.sprite f.n) r c) ∧
      Overdrawn m m.step.1 (m.originX f) (m.originY f) (m.sprite f.n) ∧
      m.step.1.reg flag = flagOf (decide (Darkened m m.step.1)) ∧
      ∀ r, r ≠ flag → m.step.1.reg r = m.reg r := by
  intro f
  have hstep := step_draw hran hdraw
  have hdrawn : Overdrawn m m.step.1 (m.originX f) (m.originY f) (m.sprite f.n) := by
    intro r c
    rw [hstep, ← if_congr (covers_sprite_visible m f.n r.isLt) rfl rfl]
    exact overdrawn_drawn m _ _ _ r c
  refine ⟨overdrawn_named_iff hdrawn, hdrawn, ?_, fun r hr => ?_⟩
  · rw [hstep]
    exact flag_drawn m _ _ _
  · rw [hstep]
    exact reg_drawn_of_ne m _ _ _ hr

/-- A machine about to draw the glyph of zero at the column that the flag holds. -/
def beforeFlagDraw : Machine :=
  ((new {} .zeros).act (.load (.bytes [0x6F, 0x08, 0xDF, 0x01]))).act .step

theorem draws_as_named_iff_beforeFlagDraw :
    beforeFlagDraw.step.2 = .ran 0x202 0xDF01 ∧ Opcode.ofWord? 0xDF01 = some .draw ∧
      ¬ Overdrawn beforeFlagDraw beforeFlagDraw.step.1 8 0 [0xF0] ∧
      Overdrawn beforeFlagDraw beforeFlagDraw.step.1 0 0 [0xF0] := by
  have hfacts : beforeFlagDraw.step.2 = .ran 0x202 0xDF01 ∧
      beforeFlagDraw.originX (Fields.ofWord (0xDF01 : Nat)) = 0 ∧
      beforeFlagDraw.originY (Fields.ofWord (0xDF01 : Nat)) = 0 ∧
      (beforeFlagDraw.reg (Fields.ofWord (0xDF01 : Nat)).x).toNat = 8 ∧
      (beforeFlagDraw.reg (Fields.ofWord (0xDF01 : Nat)).y).toNat = 0 ∧
      beforeFlagDraw.sprite (Fields.ofWord (0xDF01 : Nat)).n = [0xF0] := by
    decide +kernel
  obtain ⟨hran, hx, hy, hvx, hvy, hsprite⟩ := hfacts
  have hdraw : Opcode.ofWord? 0xDF01 = some .draw := by decide
  have hnames : (Fields.ofWord (0xDF01 : Nat)).x = flag := by decide
  obtain ⟨hnamed, hdrawn, -⟩ := draws_as_named_iff hran hdraw
  rw [hx, hy, hsprite] at hdrawn
  refine ⟨hran, hdraw, fun h => ?_, hdrawn⟩
  rw [hvx, hvy, hsprite, hx, hy] at hnamed
  obtain ⟨hflag, -⟩ | hnone := hnamed.1 h
  · have hzero := hflag hnames
    rw [← hnames, hvx] at hzero
    cases hzero
  · exact absurd (show Screen.Covers 64 32 0 0 [0xF0] 0 0 by decide) (hnone 0 0)

/-- **A draw does not use the registers it names**: one of them is the flag, and the
sprite lies at the edge of the screen. -/
theorem draw_not_as_named : ¬ ∀ (c : Config) (random : RandomSource) (m : Machine) (pc word : Nat),
    c.MemoryInRange → Reachable c random m → m.step.2 = .ran pc word →
      Opcode.ofWord? word = some .draw →
        Overdrawn m m.step.1 (m.reg (Fields.ofWord word).x).toNat
          (m.reg (Fields.ofWord word).y).toNat (m.sprite (Fields.ofWord word).n) := by
  intro h
  have hr : Reachable {} .zeros beforeFlagDraw := .act .step (.act _ .new)
  have hfacts : beforeFlagDraw.step.2 = .ran 0x202 0xDF01 ∧
      beforeFlagDraw.step.1.screen.isLit 0 0 = true ∧ beforeFlagDraw.screen.isLit 0 0 = false ∧
      (beforeFlagDraw.reg (Fields.ofWord (0xDF01 : Nat)).x).toNat = 8 := by
    decide +kernel
  obtain ⟨hran, hlit, hdark, hvx⟩ := hfacts
  have hpixel := h {} .zeros beforeFlagDraw 0x202 0xDF01 (by decide) hr hran (by decide) 0 0
  rw [hlit, hdark, hvx, if_neg] at hpixel
  · cases hpixel
  · -- the sprite as named starts eight columns to the right
    rintro ⟨⟨hleft, -⟩, -⟩
    exact absurd hleft (by decide)

end Machine

end ChipEight
