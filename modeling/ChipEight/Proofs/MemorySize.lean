/-
# The size of the memory

A memory extends another if it is at least as large, holds the same bytes as far as that
goes and zeros behind (`Memory.Extends`). What is read inside the smaller one is read in
the larger one as well, and what is stored in both leaves the larger an extension.

So a machine and one with more memory keep together (`Machine.Roomier`) in all they do
and answer, until the smaller meets an address outside its memory: no program can tell
the size of its memory in any other way (`Machine.size_shows_in_overflow_only`).
-/

import ChipEight.Proofs.Reloading

namespace ChipEight

namespace Memory

/-- The second memory has the bytes of the first, and zeros behind them. -/
structure Extends (m m' : Memory) : Prop where
  size : m.size ≤ m'.size
  byte : ∀ a, m'.byte a = m.byte a

variable {m m' : Memory} {address count : Nat} {data : List UInt8}

namespace Extends

theorem zero_behind (h : m.Extends m') (ha : m.size ≤ address) : m'.byte address = 0 := by
  rw [h.byte, byte_of_size_le ha]

theorem word (h : m.Extends m') (address : Nat) : m'.word address = m.word address := by
  rw [Memory.word, Memory.word, h.byte, h.byte]

theorem readWord (h : m.Extends m') {w : Nat} (hr : m.readWord address = .ok w) :
    m'.readWord address = .ok w := by
  obtain ⟨hfits, rfl⟩ := readWord_eq_ok.1 hr
  exact readWord_eq_ok.2 ⟨Nat.le_trans hfits h.size, h.word address⟩

theorem readBlock (h : m.Extends m') {bytes : List UInt8}
    (hr : m.readBlock address count = .ok bytes) : m'.readBlock address count = .ok bytes := by
  obtain ⟨hfits, rfl⟩ := readBlock_eq_ok.1 hr
  have hfits' := Nat.le_trans hfits h.size
  exact readBlock_eq_ok.2 ⟨hfits', block_congr hfits hfits' fun i _ => h.byte _⟩

/-- **What fits the smaller memory is stored in both**, and the larger still extends it. -/
theorem load (h : m.Extends m') {n : Memory} (hl : m.load address data = .ok n) :
    ∃ n', m'.load address data = .ok n' ∧ n.Extends n' := by
  obtain ⟨n', hl', -, -⟩ := load_of_fits (Nat.le_trans (fits_of_load hl) h.size)
  refine ⟨n', hl', ?_, fun a => ?_⟩
  · rw [size_load hl, size_load hl']
    exact h.size
  · rw [byte_load hl, byte_load hl', h.byte]

end Extends

theorem extends_append_zeros (bytes : List UInt8) (n : Nat) :
    (mk bytes.toArray).Extends ⟨(bytes ++ .replicate n 0).toArray⟩ where
  size := by simp [Memory.size]
  byte := by
    intro a
    simp only [byte, Array.getD_eq_getD_getElem?, List.getElem?_toArray,
      ← List.getD_eq_getElem?_getD]
    by_cases ha : a < bytes.length
    · rw [List.getD_append _ _ _ _ ha]
    · have hle : bytes.length ≤ a := Nat.le_of_not_lt ha
      rw [List.getD_append_right _ _ _ _ hle, List.getD_eq_default _ _ hle]
      exact List.getElem?_getD_replicate_default_eq ..

end Memory

/-- The fault is an access outside the memory. -/
def Fault.IsOverflow (fault : Fault) : Prop := ∃ e, fault = .outOfBounds e

namespace Machine

/-- The machine with a memory of another size. -/
def inRoom (m : Machine) (size : Nat) (memory : Memory) : Machine :=
  { m with config := { m.config with memorySize := size }, memory := memory }

variable {m m' : Machine} {c : Config} {size : Nat} {memory : Memory} {op : Opcode} {f : Fields}
  {program : List UInt8}

/-- **An instruction that stays inside the smaller memory** does the same in the larger. -/
theorem execute_inRoom (h : m.memory.Extends memory)
    (hok : ∀ e, (m.execute op f).2 ≠ .error (.outOfBounds e)) :
    ∃ memory', (m.inRoom size memory).execute op f
        = ((m.execute op f).1.inRoom size memory', (m.execute op f).2) ∧
      (m.execute op f).1.memory.Extends memory' := by
  cases op
  case draw =>
    dsimp only [execute, drawSprite, setReg, reg, inRoom] at hok ⊢
    split at hok
    next e _ => exact absurd rfl (hok e)
    next rows hr =>
      rw [h.readBlock hr]
      dsimp only
      split <;> exact ⟨memory, rfl, h⟩
  case decimal | store =>
    dsimp only [execute, firstRegs, reg, inRoom] at hok ⊢
    split at hok
    next e _ => exact absurd rfl (hok e)
    next n hl =>
      obtain ⟨n', hl', hn⟩ := h.load hl
      rw [hl']
      exact ⟨n', rfl, hn⟩
  case load =>
    dsimp only [execute, inRoom] at hok ⊢
    split at hok
    next e _ => exact absurd rfl (hok e)
    next bytes hr =>
      rw [h.readBlock hr]
      dsimp only [setFirstRegs, reg, advance]
      exact ⟨memory, rfl, h⟩
  case ret | call | waitKey =>
    dsimp only [execute, inRoom]
    split <;> exact ⟨memory, rfl, h⟩
  all_goals exact ⟨memory, rfl, h⟩

/-- The second machine has more memory, and else differs from the first but in its source
of random bytes, which gives the same. -/
structure Roomier (m m' : Machine) : Prop where
  twins : Twins (m.inRoom m'.config.memorySize m'.memory) m'
  memory : m.memory.Extends m'.memory

namespace Roomier

theorem execute (h : Roomier m m')
    (hok : ∀ e, (m.execute op f).2 ≠ .error (.outOfBounds e)) :
    Roomier (m.execute op f).1 (m'.execute op f).1 ∧
      (m'.execute op f).2 = (m.execute op f).2 := by
  obtain ⟨memory', hx, hextends⟩ := execute_inRoom h.memory hok
  obtain ⟨ht, he⟩ := h.twins.execute op f
  rw [hx] at ht he
  obtain rfl : (m'.execute op f).1.memory = memory' := ht.memory
  have hsize : (m'.execute op f).1.config.memorySize = m'.config.memorySize :=
    congrArg Config.memorySize (sameOutside_execute m' op f).config
  rw [← hsize] at ht
  exact ⟨⟨ht, hextends⟩, he⟩

theorem stepwise : Stepwise Roomier where
  pc := fun h => h.twins.pc
  halt := fun h => h.twins.halt
  stop := fun halt h => ⟨Twins.stepwise.stop halt h.twins, h.memory⟩
  next := fun pc h => ⟨Twins.stepwise.next pc h.twins, h.memory⟩

/-- **A step that stays inside the smaller memory** is the same in the larger. -/
theorem step (h : Roomier m m') (hs : ¬ m.step.1.StoppedBy Fault.IsOverflow) :
    Roomier m.step.1 m'.step.1 ∧ m'.step.2 = m.step.2 := by
  cases hm : m.halt with
  | some halt =>
    rw [step_of_halt hm, step_of_halt (h.twins.halt.trans hm)]
    exact ⟨h, rfl⟩
  | none =>
    have hfetched : ∃ word, m.memory.readWord m.pc = .ok word := by
      cases hw : m.memory.readWord m.pc with
      | ok word => exact ⟨word, rfl⟩
      | error e =>
        refine absurd ⟨⟨.outOfBounds e, m.pc⟩, ?_, e, rfl⟩ hs
        simp only [Machine.step, hm, hw, Machine.stop]
    obtain ⟨word, hw⟩ := hfetched
    refine stepwise.step h ((h.memory.readWord hw).trans hw.symm) fun word op hw ho => ?_
    refine h.execute fun e hx => hs ⟨⟨.outOfBounds e, m.pc⟩, ?_, e, rfl⟩
    have hpc := (sameOutside_execute m op (Fields.ofWord word)).pc
    rcases hn : m.execute op (Fields.ofWord word) with ⟨n, e'⟩
    rw [hn] at hx hpc
    obtain rfl : e' = .error (.outOfBounds e) := hx
    obtain hpc : n.pc = m.pc := hpc
    simp only [Machine.step, hm, hw, ho, hn, Machine.stop, hpc]

/-- **A machine and one with more memory keep together** until the smaller meets an
address outside. -/
theorem lockstep : Lockstep Fault.IsOverflow Roomier where
  frames := by
    intro m m' h
    exact (congrArg Config.instructionsPerFrame h.twins.config).trans rfl
  step := step
  latch := fun keypad h => ⟨h.twins.latch keypad, h.memory⟩
  tick := fun h => ⟨h.twins.tick, h.memory⟩

end Roomier

theorem image_append_zeros (h : programStart + program.length ≤ size) {size' : Nat}
    (hs : size ≤ size') :
    image size' program = image size program ++ .replicate (size' - size) 0 := by
  have hzeros : size' - (programStart + program.length)
      = size - (programStart + program.length) + (size' - size) := by omega
  simp only [image, hzeros, ← List.replicate_append_replicate, List.append_assoc]

/-- The same program in more memory. -/
theorem roomier_loaded {r s : RandomSource} (hp : programStart + program.length ≤ c.memorySize)
    (hs : c.memorySize ≤ size) (hbytes : r.SameBytes s) :
    Roomier (loaded c r program) (loaded { c with memorySize := size } s program) where
  twins := ⟨rfl, hbytes⟩
  memory := by
    simp only [loaded, image_append_zeros hp hs]
    exact Memory.extends_append_zeros ..

/-- **A program can tell the size of its memory only by an address outside.** A program
that fits the smaller of two memories is loaded into both. Whatever is asked of the two
machines from then on, as long as the smaller has not stopped at an address outside its
memory all answers are the same, and the machines differ but in the size of the memory:
the larger has the bytes of the smaller and zeros behind them. -/
theorem size_shows_in_overflow_only {random₁ random₂ : RandomSource} {m₁ m₂ : Machine}
    (hs : c.memorySize ≤ size) (h₁ : Reachable c random₁ m₁)
    (h₂ : Reachable { c with memorySize := size } random₂ m₂)
    (hbytes : m₁.random.SameBytes m₂.random)
    (hp : programStart + program.length ≤ c.memorySize) :
    ∃ p₁ p₂, m₁.loadProgram program = (p₁, .ok ()) ∧ m₂.loadProgram program = (p₂, .ok ()) ∧
      ∀ requests : List Request, ¬ (p₁.serveAll requests).StoppedBy Fault.IsOverflow →
        p₂.answers requests = p₁.answers requests ∧
          p₂.serveAll requests = ((p₁.serveAll requests).inRoom size
            (p₂.serveAll requests).memory).withRandom (p₂.serveAll requests).random ∧
          (p₁.serveAll requests).random.SameBytes (p₂.serveAll requests).random ∧
          (p₁.serveAll requests).memory.size = c.memorySize ∧
          (p₂.serveAll requests).memory.size = size ∧
          (∀ a < c.memorySize,
            (p₂.serveAll requests).memory.byte a = (p₁.serveAll requests).memory.byte a) ∧
          ∀ a, c.memorySize ≤ a → (p₂.serveAll requests).memory.byte a = 0 := by
  have hs₁ := Sound.of_reachable h₁
  have hs₂ := Sound.of_reachable h₂
  have hl₁ := hs₁.loadProgram_of_fits hp
  have hl₂ := hs₂.loadProgram_of_fits (Nat.le_trans hp hs)
  refine ⟨_, _, hl₁, hl₂, fun requests hok => ?_⟩
  obtain ⟨hroomier, hanswers⟩ :=
    Roomier.lockstep.serveAll (roomier_loaded hp hs hbytes) requests hok
  have hsound₁ := (Sound.kept c).serveAll requests (hs₁.load program)
  have hsound₂ := (Sound.kept _).serveAll requests (hs₂.load program)
  rw [hl₁] at hsound₁
  rw [hl₂] at hsound₂
  have hsize := congrArg Config.memorySize hsound₂.config
  have hsame := hroomier.twins.same
  rw [hsize] at hsame
  refine ⟨hanswers, hsame, hroomier.twins.bytes, hsound₁.size, hsound₂.size,
    fun a _ => hroomier.memory.byte a, fun a ha => ?_⟩
  exact hroomier.memory.zero_behind (hsound₁.size ▸ ha)

/-- The settings of a machine with more memory. -/
def roomy : Config := { small with memorySize := 0x220 }

/-- A program that stores a random byte in the last cell but one of the smaller memory and
then reads the last cell and the one behind. -/
def acrossTheEnd : List UInt8 := [0xC1, 0xFF, 0xA2, 0x09, 0xF1, 0x55, 0xF1, 0x65]

/-- The steps of that program before it reads, with a tick in between. -/
def beforeRead : List Request := [.move .step, .move .tick, .move .step, .move .step]

theorem size_shows_in_overflow_only_acrossTheEnd :
    ∃ p₁ p₂, stopped.loadProgram acrossTheEnd = (p₁, .ok ()) ∧
      (new roomy multiples).loadProgram acrossTheEnd = (p₂, .ok ()) ∧
      p₂.answers beforeRead = p₁.answers beforeRead ∧
      (p₂.serveAll beforeRead).memory.byte 0x20C = 0 ∧
      (p₁.serveAll beforeRead).step.2
        = .stopped (some 0xF165) ⟨.outOfBounds ⟨0x20C, 0x20C⟩, 0x206⟩ ∧
      (p₂.serveAll beforeRead).step.2 = .ran 0x206 0xF165 := by
  have hread : ((loaded small stopped.random acrossTheEnd).serveAll beforeRead).halt = none ∧
      ((loaded small stopped.random acrossTheEnd).serveAll beforeRead).step.2
        = .stopped (some 0xF165) ⟨.outOfBounds ⟨0x20C, 0x20C⟩, 0x206⟩ ∧
      ((loaded roomy multiples acrossTheEnd).serveAll beforeRead).step.2 = .ran 0x206 0xF165 := by
    decide +kernel
  have hfits : programStart + acrossTheEnd.length ≤ 0x20C := by decide
  have hnew : Reachable roomy multiples (new roomy multiples) := .new
  obtain ⟨p₁, p₂, hl₁, hl₂, hall⟩ := size_shows_in_overflow_only (by decide) reachable_stopped
    hnew sameBytes_stopped_multiples hfits
  have hloaded₁ := (Sound.of_reachable reachable_stopped).loadProgram_of_fits hfits
  have hloaded₂ := (Sound.of_reachable hnew).loadProgram_of_fits
    (show programStart + acrossTheEnd.length ≤ roomy.memorySize by decide)
  obtain ⟨rfl, -⟩ := Prod.mk.inj (hl₁.symm.trans hloaded₁)
  obtain ⟨rfl, -⟩ := Prod.mk.inj (hl₂.symm.trans hloaded₂)
  obtain ⟨hrunning, hread₁, hread₂⟩ := hread
  obtain ⟨hanswers, -, -, -, -, -, hzero⟩ := hall beforeRead (not_stoppedBy_of_running hrunning)
  exact ⟨_, _, hl₁, hl₂, hanswers, hzero 0x20C (by decide), hread₁, hread₂⟩

end Machine
end ChipEight
