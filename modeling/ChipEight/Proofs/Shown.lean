/-
# What a window shows

A window gives its image new bytes only when the screen is marked dirty, so it has to rely
on the mark. Every move of a machine leaves the picture alone or marks the screen
(`Machine.marked_step`), whatever else it does, and so do programs that are loaded and
frames that fail. What a window was last given is therefore the picture of its machine as
long as the mark is off (`Window.Fresh`), however events and redraws follow on each other
(`Window.fresh_history`); and a redraw blits the picture as it is
(`Window.never_stale`).
-/

import ChipEight.Proofs.Invariant
import ChipEight.Window

namespace ChipEight

namespace Machine

variable {m m' m'' : Machine} {op : Opcode} {f : Fields}

/-- The second machine has the picture of the first, or its screen is marked dirty. -/
structure Marked (m m' : Machine) : Prop where
  config : m'.config = m.config
  screen : m'.screen = m.screen ∨ m'.screen.dirty = true

theorem Marked.refl (m : Machine) : Marked m m := ⟨rfl, .inl rfl⟩

theorem Marked.trans (h : Marked m m') (h' : Marked m' m'') : Marked m m'' where
  config := h'.config.trans h.config
  screen := by
    obtain hs | hs := h'.screen
    · rw [hs]
      exact h.screen
    · exact .inr hs

/-- **An instruction leaves the picture alone or marks the screen.** -/
theorem marked_execute (m : Machine) (op : Opcode) (f : Fields) :
    Marked m (m.execute op f).1 where
  config := (sameOutside_execute m op f).config
  screen := by
    cases op
    case clear => exact .inr rfl
    case draw =>
      simp only [execute, drawSprite]
      split
      · exact .inl rfl
      · refine .inr ?_
        simp only [advance]
        split <;> rfl
    all_goals exact .inl ((sameOutside_execute m _ f).screen (by rfl))

/-- **A step leaves the picture alone or marks the screen**, also when it fails. -/
theorem marked_step (m : Machine) : Marked m m.step.1 :=
  step_inherits (.refl m) m.marked_execute (fun _ _ _ h => ⟨h.config, h.screen⟩)
    (fun _ _ _ h => ⟨h.config, h.screen⟩)

/-- Every move leaves the picture alone or marks the screen. -/
theorem kept_marked (m : Machine) : Kept (Marked m) where
  load := by
    intro m' program h
    obtain ⟨memory, pc, hl, -⟩ := m'.exists_loadProgram program
    rw [hl]
    exact ⟨h.config, .inr rfl⟩
  step := fun h => h.trans (marked_step _)
  latch := fun _ h => ⟨h.config, h.screen⟩
  tick := fun h => ⟨h.config, h.screen⟩

end Machine

namespace Window

/-- What can happen to a window and its machine. -/
inductive Happening
  /-- An event reaches the window. -/
  | event (e : Event)
  /-- A frame is run, on the clock or not. -/
  | frame
  /-- The window is told that the machine has stopped. -/
  | halt (halt : Halt)
  /-- A host loads a program, or does something else to the machine. -/
  | machine (a : Machine.Action)

/-- What is given to the image by a call. -/
def Call.bytes? : Call → Option (List UInt8)
  | newImage _ _ bytes | setImage _ bytes => some bytes
  | _ => none

/-- What was last given to the image. -/
def given (calls : List Call) : Option (List UInt8) := (calls.filterMap Call.bytes?).getLast?

/-- The window after a happening, and the calls that it makes. -/
def undergo (w : Window) : Happening → Window × List Call
  | .event e => ((w.handle e).1, (w.handle e).2.calls)
  | .frame => (w.runFrame.1, w.runFrame.2.calls)
  | .halt halt => (w.stop halt, [])
  | .machine a => ({ w with machine := w.machine.act a }, [])

/-- A window on a machine after a row of happenings, and all the calls made since it was
opened. -/
def history (m : Machine) (threshold : Log.Level) (happenings : List Happening) :
    Window × List Call :=
  happenings.foldl (fun (w, calls) x => ((w.undergo x).1, calls ++ (w.undergo x).2))
    (ofMachine m threshold)

/-- What was last given to the image is the picture at a scale, unless the screen is marked
dirty. -/
structure Fresh (scale : Nat) (w : Window) (calls : List Call) : Prop where
  lastGiven : given calls = some w.image
  scale_eq : w.machine.config.scale = scale
  image_eq : w.machine.screen.dirty = false → w.image = w.picture

variable {w w' : Window} {calls more : List Call} {scale : Nat}

theorem given_append (calls more : List Call) :
    given (calls ++ more) = (given more).or (given calls) := by
  rw [given, List.filterMap_append, List.getLast?_append]
  rfl

theorem fresh_ofMachine (m : Machine) (threshold : Log.Level) :
    Fresh m.config.scale (ofMachine m threshold).1 (ofMachine m threshold).2 :=
  ⟨rfl, rfl, fun _ => rfl⟩

/-- A window stays fresh if its image stays and its machine leaves the picture alone or
marks it. -/
theorem Fresh.of_marked (h : Fresh scale w calls) (himage : w'.image = w.image)
    (hm : Machine.Marked w.machine w'.machine) : Fresh scale w' calls where
  lastGiven := himage ▸ h.lastGiven
  scale_eq := by rw [hm.config, h.scale_eq]
  image_eq := by
    intro hclean
    obtain hs | hs := hm.screen
    · rw [himage, h.image_eq (hs ▸ hclean), Window.picture, Window.picture, Window.scale,
        Window.scale, hs, hm.config]
    · cases hclean.symm.trans hs

theorem marked_runFrame (w : Window) :
    Machine.Marked w.machine w.runFrame.1.machine ∧ w.runFrame.1.image = w.image ∧
      w.runFrame.2.calls = [] := by
  rw [runFrame]
  cases hr : w.machine.runFrame (some w.keyboard.snapshot) with
  | error e => exact ⟨.refl _, rfl, rfl⟩
  | ok r =>
    have hm := (Machine.kept_marked w.machine).runFrame (.refl _) hr
    dsimp only
    split <;> exact ⟨hm, rfl, rfl⟩

/-- What a redraw leaves: the picture in the image, and the mark off. -/
theorem draw_eq (w : Window) :
    w.draw.1.machine = { w.machine with screen := w.machine.screen.clean } ∧
      w.draw.1.image = (if w.machine.screen.dirty then w.picture else w.image) ∧
      w.draw.2.calls = w.refresh.2
        ++ [.clear, .blit 0 0, .drawLabel w.fpsText, .drawLabel w.cpsText] ∧
      given w.refresh.2 = (if w.machine.screen.dirty then some w.picture else none) := by
  rw [draw, refresh]
  cases hd : w.machine.screen.dirty with
  | true => exact ⟨rfl, rfl, rfl, rfl⟩
  | false =>
    have hclean : w.machine.screen.clean = w.machine.screen := by rw [Screen.clean, ← hd]
    rw [hclean]
    exact ⟨rfl, rfl, rfl, rfl⟩

theorem marked_moveKey (w : Window) (symbol : Int) (isDown : Bool) :
    Machine.Marked w.machine (w.moveKey symbol isDown).1.machine ∧
      (w.moveKey symbol isDown).1.image = w.image ∧ (w.moveKey symbol isDown).2.calls = [] := by
  rw [moveKey]
  split <;> exact ⟨.refl _, rfl, rfl⟩

/-- **Only a redraw touches the image**; other events leave the picture alone or mark it. -/
theorem handle_cases (w : Window) (e : Event) :
    (w.handle e).1 = w.draw.1 ∧ (w.handle e).2.calls = w.draw.2.calls ∨
      Machine.Marked w.machine (w.handle e).1.machine ∧ (w.handle e).1.image = w.image ∧
        (w.handle e).2.calls = [] := by
  cases e with
  | draw => exact .inl ⟨rfl, rfl⟩
  | frame =>
    right
    simp only [handle]
    split
    · exact w.marked_runFrame
    · exact ⟨.refl _, rfl, rfl⟩
  | bench seconds =>
    right
    simp only [handle, bench]
    split <;> exact ⟨.refl _, rfl, rfl⟩
  | press symbol =>
    right
    simp only [handle]
    split
    · exact ⟨.refl _, rfl, rfl⟩
    · split
      · exact ⟨.refl _, rfl, rfl⟩
      · exact w.marked_moveKey symbol true
  | release symbol => exact .inr (w.marked_moveKey symbol false)
  | deactivate => exact .inr ⟨.refl _, rfl, rfl⟩

theorem Fresh.picture_eq (h : Fresh scale w calls) :
    w.picture = Picture.render (pixelsOf w.machine.screen) scale := by
  rw [picture, Window.scale, h.scale_eq]

/-- **A fresh window has the picture in its image** when it blits. -/
theorem Fresh.lastGiven_refresh (h : Fresh scale w calls) :
    given (calls ++ w.refresh.2) = some w.picture ∧ w.draw.1.image = w.picture := by
  obtain ⟨-, himage, -, hgiven⟩ := w.draw_eq
  rw [given_append, hgiven, himage]
  cases hd : w.machine.screen.dirty with
  | true => exact ⟨rfl, rfl⟩
  | false =>
    have hw := h.image_eq hd
    exact ⟨h.lastGiven.trans (congrArg some hw), hw⟩

theorem Fresh.lastGiven_draw (h : Fresh scale w calls) :
    given (calls ++ w.draw.2.calls) = some w.picture := by
  obtain ⟨-, -, hcalls, -⟩ := w.draw_eq
  rw [hcalls, ← List.append_assoc, given_append]
  exact h.lastGiven_refresh.1

/-- **A redraw keeps a window fresh.** -/
theorem Fresh.draw (h : Fresh scale w calls) :
    Fresh scale w.draw.1 (calls ++ w.draw.2.calls) := by
  obtain ⟨hmachine, -, -, -⟩ := w.draw_eq
  have hpicture : w.draw.1.picture = w.picture := by
    rw [Window.picture, Window.scale, hmachine]
    rfl
  exact {
    lastGiven := by rw [h.lastGiven_draw, h.lastGiven_refresh.2]
    scale_eq := by rw [hmachine, h.scale_eq]
    image_eq := fun _ => by rw [hpicture, h.lastGiven_refresh.2] }

/-- **Whatever happens, a window stays fresh.** -/
theorem Fresh.undergo (h : Fresh scale w calls) (x : Happening) :
    Fresh scale (w.undergo x).1 (calls ++ (w.undergo x).2) := by
  cases x with
  | event e =>
    obtain ⟨hw, hcalls⟩ | ⟨hm, himage, hcalls⟩ := w.handle_cases e
    · simp only [Window.undergo, hw, hcalls]
      exact h.draw
    · simp only [Window.undergo, hcalls, List.append_nil]
      exact h.of_marked himage hm
  | frame =>
    obtain ⟨hm, himage, hcalls⟩ := w.marked_runFrame
    simp only [Window.undergo, hcalls, List.append_nil]
    exact h.of_marked himage hm
  | halt halt =>
    simp only [Window.undergo, List.append_nil]
    exact h.of_marked rfl (.refl _)
  | machine a =>
    simp only [Window.undergo, List.append_nil]
    exact h.of_marked rfl ((Machine.kept_marked w.machine).act a (.refl _))

/-- **A window is fresh at any time** after it was opened. -/
theorem fresh_history (m : Machine) (threshold : Log.Level) (happenings : List Happening) :
    Fresh m.config.scale (history m threshold happenings).1
      (history m threshold happenings).2 := by
  rw [history]
  generalize hs : ofMachine m threshold = s
  have h : Fresh m.config.scale s.1 s.2 := hs ▸ fresh_ofMachine m threshold
  clear hs
  induction happenings generalizing s with
  | nil => exact h
  | cons x happenings ih => exact ih _ (h.undergo x)

/-- **A window never shows a stale picture.** Whatever has happened to it and its machine
since it was opened, if the screen is not marked dirty, what the image was last given is
the picture of the screen as it is. And a redraw, which gives it new bytes only if the mark
is on, has the image show that picture when it blits it, changes nothing else in the
machine, and leaves the mark off. -/
theorem never_stale {m : Machine} {threshold : Log.Level} {happenings : List Happening}
    (h : history m threshold happenings = (w, calls)) :
    (w.machine.screen.dirty = false →
        given calls = some (Picture.render (pixelsOf w.machine.screen) m.config.scale)) ∧
      ∃ before after, (w.handle .draw).2.calls = before ++ .blit 0 0 :: after ∧
        given (calls ++ before)
          = some (Picture.render (pixelsOf w.machine.screen) m.config.scale) ∧
        given (calls ++ (w.handle .draw).2.calls)
          = some (Picture.render (pixelsOf w.machine.screen) m.config.scale) ∧
        (w.handle .draw).1.machine = { w.machine with screen := w.machine.screen.clean } ∧
        ((before ++ after).filterMap Call.bytes? ≠ [] → w.machine.screen.dirty = true) := by
  have hfresh : Fresh m.config.scale w calls := by
    have := fresh_history m threshold happenings
    rwa [h] at this
  obtain ⟨hmachine, -, hcalls, -⟩ := w.draw_eq
  rw [← hfresh.picture_eq]
  refine ⟨fun hclean => hfresh.lastGiven.trans (congrArg some (hfresh.image_eq hclean)),
    w.refresh.2 ++ [.clear], [.drawLabel w.fpsText, .drawLabel w.cpsText], ?_, ?_,
    hfresh.lastGiven_draw, hmachine, fun hgives => ?_⟩
  · rw [List.append_assoc]
    exact hcalls
  · rw [← List.append_assoc, given_append]
    exact hfresh.lastGiven_refresh.1
  · cases hd : w.machine.screen.dirty with
    | true => rfl
    | false =>
      refine absurd ?_ hgives
      rw [refresh, hd]
      rfl

/-- A machine without a program. -/
def unloaded : Machine := .new { memorySize := 0x20C, instructionsPerFrame := 4 } .zeros

/-- A program is loaded that draws a glyph in its first frame; the frame runs, and the
picture is wanted. In its second frame the program clears the screen and returns without
a call. -/
def glyphDrawn : List Happening := [
  .machine (.load (.bytes
    [0xD0, 0x05, 0x61, 0x05, 0x62, 0x05, 0x63, 0x05, 0x00, 0xE0, 0x00, 0xEE])),
  .event .frame, .event .draw]

/-- The same and the second frame, behind which the window is left. -/
def screenCleared : List Happening := glyphDrawn ++ [.event .frame, .event .deactivate]

theorem never_stale_glyphDrawn :
    (history unloaded .info glyphDrawn).1.machine.screen.dirty = false ∧
      (history unloaded .info glyphDrawn).1.machine.screen.lit = 14 ∧
      given (history unloaded .info glyphDrawn).2 = some
        (Picture.render (pixelsOf (history unloaded .info glyphDrawn).1.machine.screen) 10) ∧
      (history unloaded .info screenCleared).1.machine.screen = .blank 64 32 ∧
      (history unloaded .info screenCleared).1.machine.halt = some ⟨.stack .underflow, 0x20A⟩ ∧
      given ((history unloaded .info screenCleared).2
          ++ ((history unloaded .info screenCleared).1.handle .draw).2.calls)
        = some (Picture.render (pixelsOf (.blank 64 32)) 10) := by
  have hdrawn : (history unloaded .info glyphDrawn).1.machine.screen.dirty = false ∧
      (history unloaded .info glyphDrawn).1.machine.screen.lit = 14 ∧
      (history unloaded .info screenCleared).1.machine.screen = .blank 64 32 ∧
      (history unloaded .info screenCleared).1.machine.halt = some ⟨.stack .underflow, 0x20A⟩ := by
    decide +kernel
  obtain ⟨hclean, hlit, hblank, hhalt⟩ := hdrawn
  have hat (happenings : List Happening) : history unloaded .info happenings
      = ((history unloaded .info happenings).1, (history unloaded .info happenings).2) := rfl
  obtain ⟨hdrawn, -⟩ := never_stale (hat glyphDrawn)
  obtain ⟨-, _, _, -, -, hcleared, -⟩ := never_stale (hat screenCleared)
  rw [hblank] at hcleared
  exact ⟨hclean, hlit, hdrawn hclean, hblank, hhalt, hcleared⟩

end Window
end ChipEight
