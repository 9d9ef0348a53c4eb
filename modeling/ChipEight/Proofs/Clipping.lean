/-
# The two clippings of a draw

A sprite that runs over the bottom edge is cut off twice. A draw counts the rows that are
on screen and fetches no others, and the screen stops at its last line whatever it is
given. The two cut at the same row: rows behind the last line leave a draw as it is
(`Screen.draw_take`), and these are the rows that are not fetched. So a draw that fetches
all of its rows, if they are all there, comes to the same (`Machine.drawRows_visible`).

The rows that are not fetched are not needed either. Two machines that differ only in
bytes behind the rows on screen, those of the instruction apart, fetch the same rows, and
so a step leaves them with the same difference (`Machine.AgreeWhereRead.step`).
-/

import ChipEight.Proofs.Lockstep
import ChipEight.Proofs.SpriteOrigin

namespace ChipEight

namespace Screen

variable {width height : Nat}

/-- **Rows behind the last line are not stamped.** -/
theorem stamp_take (pixels : Vector (Vector Bool width) height) (column line : Nat)
    (rows : List Int) {n : Nat} (hn : height ≤ line + n) :
    stamp pixels column line (rows.take n) = stamp pixels column line rows := by
  induction rows generalizing pixels line n with
  | nil => rw [List.take_nil]
  | cons row rows ih =>
    cases n with
    | zero =>
      have hbelow : ¬ line < height := by omega
      rw [List.take_zero, stamp, stamp, dif_neg hbelow]
    | succ n =>
      have hrest : height ≤ line + 1 + n := by omega
      rw [List.take_succ_cons, stamp, stamp]
      simp only [ih _ (line + 1) hrest]

theorem draw_take (s : Screen width height) (x y : Int) (rows : List Int) {n : Nat}
    (hn : height ≤ (y % height).toNat + n) : s.draw x y (rows.take n) = s.draw x y rows := by
  rw [draw, draw, paint, paint, stamp_take _ _ _ _ hn]

end Screen

namespace Machine

variable {m m' : Machine} {f : Fields} {memory : Memory}

/-- The rows on screen are the first ones of the sprite. -/
theorem sprite_visibleRows (m : Machine) (f : Fields) :
    m.sprite (m.visibleRows f) = (m.sprite f.n).take (32 - m.originY f % 32) := by
  have hcount : m.visibleRows f = min (32 - m.originY f % 32) f.n := by
    rw [visibleRows, ← originY, Nat.min_comm]
  rw [hcount, sprite, sprite, ← List.map_take, List.take_range]

/-- **All rows make the same draw as those on screen.** -/
theorem drawn_visibleRows (m : Machine) (f : Fields) :
    m.drawn (m.originX f) (m.originY f) (m.sprite (m.visibleRows f))
      = m.drawn (m.originX f) (m.originY f) (m.sprite f.n) := by
  have hreach : 32 ≤ ((m.originY f : Int) % (32 : Nat)).toNat + (32 - m.originY f % 32) := by
    omega
  rw [drawn, drawn, sprite_visibleRows, Screen.draw_take _ _ _ _ hreach]

/-- **Fetching all rows of a sprite draws what fetching those on screen draws**, if they
are all there. -/
theorem drawRows_visible (h : m.index + f.n ≤ m.memory.size) :
    m.execute .draw f = m.drawRows f f.n := by
  have hvisible : m.index + m.visibleRows f ≤ m.memory.size := by
    have hle : m.visibleRows f ≤ f.n := Nat.min_le_left ..
    omega
  rw [execute_draw hvisible, drawRows_of_fits h, drawn_visibleRows]

/-- The machine with another memory. -/
def withMemory (m : Machine) (memory : Memory) : Machine := { m with memory := memory }

@[simp] theorem screen_withMemory (m : Machine) (memory : Memory) :
    (m.withMemory memory).screen = m.screen := rfl

/-- A draw of the instruction at the program counter does not read the byte: it lies
behind the rows on screen and is none of the two of the instruction. -/
def Unread (m : Machine) (f : Fields) (address : Nat) : Prop :=
  m.index + m.visibleRows f ≤ address ∧ address ≠ m.pc ∧ address ≠ m.pc + 1

instance (m : Machine) (f : Fields) (address : Nat) : Decidable (m.Unread f address) :=
  inferInstanceAs (Decidable (_ ∧ _ ∧ _))

/-- The machines differ in nothing but bytes that a draw does not read. -/
structure AgreeWhereRead (f : Fields) (m m' : Machine) : Prop where
  same : m' = m.withMemory m'.memory
  size : m'.memory.size = m.memory.size
  byte : ∀ address, m'.memory.byte address ≠ m.memory.byte address → m.Unread f address

/-- A draw looks at the memory by its rows alone, and leaves it as it is. -/
theorem execute_draw_withMemory
    (h : memory.readBlock m.index (m.visibleRows f)
      = m.memory.readBlock m.index (m.visibleRows f)) :
    (m.withMemory memory).execute .draw f
      = ((m.execute .draw f).1.withMemory memory, (m.execute .draw f).2) := by
  rw [visibleRows] at h
  dsimp only [execute, drawSprite, setReg, reg, withMemory] at h ⊢
  rw [h]
  split
  · rfl
  · dsimp only [advance]
    split
    · rfl
    · rfl

/-- To have another memory carries over from an instruction to its step. -/
theorem stepwise_withMemory (memory : Memory) :
    Stepwise fun m m' => m' = m.withMemory memory where
  pc := by
    rintro m m' rfl
    rfl
  halt := by
    rintro m m' rfl
    rfl
  stop := by
    rintro m m' halt rfl
    rfl
  next := by
    rintro m m' pc rfl
    rfl

namespace AgreeWhereRead

theorem byte_eq (h : AgreeWhereRead f m m') {address : Nat} (hread : ¬ m.Unread f address) :
    m'.memory.byte address = m.memory.byte address :=
  Decidable.byContradiction fun hne => hread (h.byte address hne)

theorem readWord (h : AgreeWhereRead f m m') :
    m'.memory.readWord m.pc = m.memory.readWord m.pc := by
  refine Memory.readWord_congr h.size (h.byte_eq ?_) (h.byte_eq ?_)
  · rintro ⟨-, hne, -⟩
    exact hne rfl
  · rintro ⟨-, -, hne⟩
    exact hne rfl

theorem readBlock (h : AgreeWhereRead f m m') :
    m'.memory.readBlock m.index (m.visibleRows f)
      = m.memory.readBlock m.index (m.visibleRows f) := by
  refine Memory.readBlock_congr h.size fun i hi => h.byte_eq ?_
  rintro ⟨hbehind, -, -⟩
  omega

/-- **A step that draws does not see the bytes that it does not read**, whether it
succeeds or fails. -/
theorem step (h : AgreeWhereRead (Fields.ofWord (m.memory.word m.pc)) m m')
    (hdraw : m.fetched? = some .draw) :
    m'.step.1 = m.step.1.withMemory m'.memory ∧ m'.step.2 = m.step.2 := by
  refine (stepwise_withMemory m'.memory).step h.same h.readWord fun word op hw ho => ?_
  obtain ⟨-, hdraw⟩ := fetched?_eq_some.1 hdraw
  obtain ⟨-, rfl⟩ := Memory.readWord_eq_ok.1 hw
  obtain rfl : op = .draw := Option.some.inj (ho.symm.trans hdraw)
  have hx := execute_draw_withMemory h.readBlock
  rw [← h.same] at hx
  rw [hx]
  exact ⟨rfl, rfl⟩

end AgreeWhereRead

/-- Another byte at an address that is not read makes such a machine. -/
theorem agreeWhereRead_set {address : Nat} (b : UInt8) (h : m.Unread f address) :
    AgreeWhereRead f m (m.withMemory ⟨m.memory.cells.setIfInBounds address b⟩) where
  same := rfl
  size := Array.size_setIfInBounds
  byte := by
    intro a hne
    by_contra hread
    have hother : address ≠ a := by
      rintro rfl
      exact hread h
    refine hne ?_
    simp [Memory.byte, withMemory, Array.getElem?_setIfInBounds_ne hother]

/-- A step that draws leaves the memory as it was. -/
theorem memory_step_draw (hdraw : m.fetched? = some .draw) : m.step.1.memory = m.memory := by
  cases ho : m.step.2 with
  | ran pc word =>
    obtain ⟨-, rfl, op, n, next, hop, hx, hs⟩ := execute_of_ran ho
    obtain rfl : op = .draw := Option.some.inj (hop.symm.trans (fetched?_eq_some.1 hdraw).2)
    have same := (sameOutside_execute m .draw (Fields.ofWord (m.memory.word m.pc))).memory rfl
    rw [hx] at same
    rw [hs]
    exact same
  | stopped _ _ => exact memory_step_of_not_ok (by rw [ho]; rfl)
  | halted _ => exact memory_step_of_not_ok (by rw [ho]; rfl)

/-- **The two clippings of a draw agree.** If all rows of a sprite are there, a draw that
fetches those on screen does the same as one that fetches them all and leaves the clipping
to the screen, and both succeed. And a step that draws reads no byte behind the rows on
screen but those of its own word: of two machines that differ only in such bytes it makes
machines that differ only in them, with one outcome, be it a fault or not. -/
theorem clippings_agree (m : Machine) :
    (∀ f : Fields, m.index + f.n ≤ m.memory.size →
      m.execute .draw f = m.drawRows f f.n ∧ (m.drawRows f f.n).2 = .ok (m.pc + 2)) ∧
    ∀ m' : Machine, m.fetched? = some .draw →
      AgreeWhereRead (Fields.ofWord (m.memory.word m.pc)) m m' →
        m'.step.2 = m.step.2 ∧ m'.step.1 = m.step.1.withMemory m'.memory ∧
          m.step.1.memory = m.memory := by
  constructor
  · intro f h
    refine ⟨drawRows_visible h, ?_⟩
    rw [drawRows_of_fits h]
  · intro m' hdraw hagree
    obtain ⟨hstep, houtcome⟩ := hagree.step hdraw
    exact ⟨houtcome, hstep, memory_step_draw hdraw⟩

/-- A machine about to draw two rows, the last bytes of its memory, from the last line of
the screen. -/
def onLastLine : Machine :=
  (((new { memorySize := 0x208 } .zeros).act
    (.load (.bytes [0x60, 0x1F, 0xA2, 0x06, 0xD1, 0x02, 0x81, 0xFF]))).act .step).act .step

/-- Its memory with another byte for the second row. -/
def otherSecondRow : Memory := ⟨onLastLine.memory.cells.setIfInBounds 0x207 0xAA⟩

theorem clippings_agree_onLastLine :
    onLastLine.index + (Fields.ofWord 0xD102).n ≤ onLastLine.memory.size ∧
      onLastLine.execute .draw (Fields.ofWord 0xD102)
        = onLastLine.drawRows (Fields.ofWord 0xD102) 2 ∧
      onLastLine.fetched? = some .draw ∧
      otherSecondRow.byte 0x207 ≠ onLastLine.memory.byte 0x207 ∧
      (onLastLine.withMemory otherSecondRow).step.2 = .ran 0x204 0xD102 ∧
      (onLastLine.withMemory otherSecondRow).step.1.screen.isLit 31 7 = true := by
  have hfacts : onLastLine.index + (Fields.ofWord 0xD102).n ≤ onLastLine.memory.size ∧
      onLastLine.fetched? = some .draw ∧
      onLastLine.Unread (Fields.ofWord (onLastLine.memory.word onLastLine.pc)) 0x207 ∧
      otherSecondRow.byte 0x207 ≠ onLastLine.memory.byte 0x207 ∧
      onLastLine.step.2 = .ran 0x204 0xD102 ∧ onLastLine.step.1.screen.isLit 31 7 = true := by
    decide +kernel
  obtain ⟨hfits, hdraw, hunread, hother, hran, hlit⟩ := hfacts
  obtain ⟨hrows, hread⟩ := clippings_agree onLastLine
  obtain ⟨hall, -⟩ := hrows _ hfits
  have hagree : AgreeWhereRead (Fields.ofWord (onLastLine.memory.word onLastLine.pc)) onLastLine
      (onLastLine.withMemory otherSecondRow) := agreeWhereRead_set 0xAA hunread
  obtain ⟨houtcome, hstep, -⟩ := hread _ hdraw hagree
  refine ⟨hfits, hall, hdraw, hother, houtcome.trans hran, ?_⟩
  rw [hstep, screen_withMemory]
  exact hlit

end Machine
end ChipEight
