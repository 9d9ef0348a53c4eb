/-
# The sound timer is heard by the host alone

`Fx18` writes the sound timer and a tick counts it down; nothing else in a machine looks
at it, nor at the choice of the register that `Fx18` takes. So a machine with another
choice and another value in that timer (`Machine.withSound`) executes every instruction as
before (`Machine.execute_withSound`), and keeps apart from the first by these two alone
(`Machine.Muted.lockstep`), whatever is loaded and asked for
(`Machine.sound_stays_aside`).
-/

import ChipEight.Proofs.Reloading

namespace ChipEight.Machine

variable {c : Config} {operand : SoundOperand} {m m' : Machine}

/-- The machine with another register for the sound timer and another value in it. -/
def withSound (m : Machine) (operand : SoundOperand) (sound : Int) : Machine :=
  { m with
    config := { m.config with soundOperand := operand }
    timers := { m.timers with sound := sound } }

/-- The second machine is the first but for its sound timer and the register for it. -/
def Muted (operand : SoundOperand) (m m' : Machine) : Prop :=
  ∃ sound, m' = m.withSound operand sound

/-- **No instruction hears the sound timer.** -/
theorem execute_withSound (m : Machine) (operand : SoundOperand) (sound : Int) (op : Opcode)
    (f : Fields) :
    ∃ sound', (m.withSound operand sound).execute op f
      = ((m.execute op f).1.withSound operand sound', (m.execute op f).2) := by
  cases op
  case draw =>
    dsimp only [execute, drawSprite, setReg, reg, withSound]
    split
    · exact ⟨sound, rfl⟩
    · split <;> exact ⟨sound, rfl⟩
  case ret | call | decimal | store | load | waitKey =>
    dsimp only [execute, firstRegs, reg, withSound]
    split <;> exact ⟨sound, rfl⟩
  all_goals exact ⟨_, rfl⟩

namespace Muted

theorem stepwise : Stepwise (Muted operand) where
  pc := by
    rintro m _ ⟨sound, rfl⟩
    rfl
  halt := by
    rintro m _ ⟨sound, rfl⟩
    rfl
  stop := by
    rintro m _ halt ⟨sound, rfl⟩
    exact ⟨sound, rfl⟩
  next := by
    rintro m _ pc ⟨sound, rfl⟩
    exact ⟨sound, rfl⟩

/-- **Machines apart in the sound alone step alike.** -/
theorem step (h : Muted operand m m') :
    Muted operand m.step.1 m'.step.1 ∧ m'.step.2 = m.step.2 := by
  obtain ⟨sound, rfl⟩ := id h
  refine stepwise.step h rfl fun word op _ _ => ?_
  obtain ⟨sound', hx⟩ := m.execute_withSound operand sound op (Fields.ofWord word)
  rw [hx]
  exact ⟨⟨sound', rfl⟩, rfl⟩

/-- **Machines apart in the sound alone keep together.** -/
theorem lockstep : Lockstep (fun _ => False) (Muted operand) where
  frames := by
    rintro m _ ⟨sound, rfl⟩
    rfl
  step := fun h _ => h.step
  latch := by
    rintro m _ keypad ⟨sound, rfl⟩
    exact ⟨sound, rfl⟩
  tick := by
    rintro m _ ⟨sound, rfl⟩
    exact ⟨_, rfl⟩

theorem serveAll (h : Muted operand m m') (requests : List Request) :
    Muted operand (m.serveAll requests) (m'.serveAll requests) ∧
      m'.answers requests = m.answers requests :=
  lockstep.serveAll h requests fun ⟨_, _, hnever⟩ => hnever

end Muted

theorem muted_loaded (c : Config) (operand : SoundOperand) (random : RandomSource)
    (program : List UInt8) :
    Muted operand (loaded c random program)
      (loaded { c with soundOperand := operand } random program) := ⟨0, rfl⟩

/-- **What feeds the sound timer matters to the sound timer alone.** Two machines differ in
the register that they take for it, and will draw the same bytes. A program is loaded into
both or refused by both. If it is loaded, whatever is asked of them from then on has the
same answers and leaves them the same but for that choice and for the sound timer. Any
machine goes on in the same way, too, if its sound timer is set to something else. -/
theorem sound_stays_aside {random₁ random₂ : RandomSource} {m₁ m₂ : Machine}
    (hc : c.MemoryInRange) (h₁ : Reachable c random₁ m₁)
    (h₂ : Reachable { c with soundOperand := operand } random₂ m₂)
    (hbytes : m₁.random.SameBytes m₂.random) (program : List UInt8) :
    (m₂.loadProgram program).2 = (m₁.loadProgram program).2 ∧
      ((m₁.loadProgram program).2 = .ok () → ∀ requests : List Request,
        (m₂.loadProgram program).1.answers requests
            = (m₁.loadProgram program).1.answers requests ∧
          (∃ sound, (m₂.loadProgram program).1.serveAll requests
            = (((m₁.loadProgram program).1.serveAll requests).withSound operand sound).withRandom
              ((m₂.loadProgram program).1.serveAll requests).random) ∧
          ((m₁.loadProgram program).1.serveAll requests).random.SameBytes
            ((m₂.loadProgram program).1.serveAll requests).random ∧
          (m₂.random = m₁.random → ((m₂.loadProgram program).1.serveAll requests).random
            = ((m₁.loadProgram program).1.serveAll requests).random)) ∧
      ∀ (m : Machine) (sound : Int) (requests : List Request),
        (m.withSound m.config.soundOperand sound).answers requests = m.answers requests ∧
          ∃ sound', (m.withSound m.config.soundOperand sound).serveAll requests
            = (m.serveAll requests).withSound m.config.soundOperand sound' := by
  have hs₁ := Sound.of_reachable h₁
  have hs₂ := Sound.of_reachable h₂
  refine ⟨?result, fun hok requests => ?same, fun m sound requests => ?unheard⟩
  case result =>
    have hc₂ : Config.MemoryInRange { c with soundOperand := operand } := hc
    rw [hs₁.loadProgram_snd hc, hs₂.loadProgram_snd hc₂]
  case same =>
    have hp : programStart + program.length ≤ c.memorySize := by
      refine Decidable.byContradiction fun hp => ?_
      rw [hs₁.loadProgram_snd hc, if_neg hp] at hok
      cases hok
    rw [hs₁.loadProgram_of_fits hp, hs₂.loadProgram_of_fits hp]
    -- Between the two stands the second machine with the first one's random bytes.
    obtain ⟨⟨sound, hmuted⟩, hanswers⟩ :=
      (muted_loaded c operand m₁.random program).serveAll requests
    obtain ⟨htwins, htold⟩ := (twins_loaded hbytes).serveAll requests
    have hbytes' := htwins.bytes
    refine ⟨htold.trans hanswers, ⟨sound, hmuted ▸ htwins.same⟩, ?_, fun hrandom => ?_⟩
    · rw [hmuted] at hbytes'
      exact hbytes'
    · rw [hrandom, hmuted]
      rfl
  case unheard =>
    obtain ⟨hmuted, hanswers⟩ := Muted.serveAll ⟨sound, rfl⟩ requests
    exact ⟨hanswers, hmuted⟩

/-- The settings of a machine that takes `V8` for its sound timer. -/
def lowSounding : Config := { small with soundOperand := .lowNibble }

/-- A program that sets two registers and the sound timer, draws a random byte and reads
the delay timer. -/
def sounding : List UInt8 := [0x60, 0x05, 0x68, 0x03, 0xF0, 0x18, 0xC1, 0xFF, 0xF0, 0x07]

/-- A frame of its first instructions, the last one and a tick. -/
def soundingFrame : List Request := [.frame lastKeyDown, .move .step, .move .tick]

theorem sound_stays_aside_sounding :
    (stopped.loadProgram sounding).2 = .ok () ∧
      ((new lowSounding multiples).loadProgram sounding).2 = .ok () ∧
      ((stopped.loadProgram sounding).1.serveAll soundingFrame).timers.sound = 3 ∧
      (((new lowSounding multiples).loadProgram sounding).1.serveAll soundingFrame).timers.sound
        = 1 ∧
      ((new lowSounding multiples).loadProgram sounding).1.answers soundingFrame
        = (stopped.loadProgram sounding).1.answers soundingFrame ∧
      ((new lowSounding multiples).loadProgram sounding).1.serveAll soundingFrame
        = (((stopped.loadProgram sounding).1.serveAll soundingFrame).withSound .lowNibble
          1).withRandom
            (((new lowSounding multiples).loadProgram sounding).1.serveAll
              soundingFrame).random := by
  have hok : (stopped.loadProgram sounding).2 = .ok () :=
    congrArg Prod.snd ((Sound.of_reachable reachable_stopped).loadProgram_of_fits (by decide))
  have hsounds : ((stopped.loadProgram sounding).1.serveAll soundingFrame).timers.sound = 3 ∧
      (((new lowSounding multiples).loadProgram sounding).1.serveAll soundingFrame).timers.sound
        = 1 := by
    decide +kernel
  obtain ⟨hsound₁, hsound₂⟩ := hsounds
  have hnew : Reachable { small with soundOperand := .lowNibble } multiples
    (new lowSounding multiples) := .new
  obtain ⟨hresult, hsame, -⟩ := sound_stays_aside (by decide) reachable_stopped hnew
    sameBytes_stopped_multiples sounding
  obtain ⟨hanswers, ⟨sound, hserved⟩, -, -⟩ := hsame hok soundingFrame
  obtain rfl : 1 = sound := by
    rw [hserved] at hsound₂
    exact hsound₂.symm
  exact ⟨hok, hresult.trans hok, hsound₁, hsound₂, hanswers, hserved⟩

end ChipEight.Machine
