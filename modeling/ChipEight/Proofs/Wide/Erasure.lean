/-
# Types hide nothing

`Machine.wide` forgets that the numbers of a machine are bytes, bits and addresses.
Whatever a machine does in its types it does on the plain numbers as well, with the
same outcome and without a `Wide.Trap`: an instruction (`Machine.wide_execute`), a
step of a machine that is sound (`Machine.Sound.wide_step`), and so any action of a
host (`Machine.Sound.wide_act`). The machines that histories lead to over plain
numbers are therefore those of the typed histories (`Machine.wide_reachable`).
-/

import ChipEight.Proofs.Invariant
import ChipEight.Proofs.Wide.Bytes
import ChipEight.Proofs.Wide.Machine

namespace ChipEight

open Wide (ok_bind beq_toNat bne_toNat lt_toNat carry_toNat add_toNat sub_toNat lor_toNat
  land_toNat xor_toNat div_two_toNat mod_two_toNat two_mul_toNat top_toNat toNat_ofNat toNat_ofInt
  land_byte)

namespace Machine

/-- The machine with its numbers as plain integers. -/
def wide (m : Machine) : Wide where
  config := m.config
  memory := m.memory
  registers := m.registers.toList.map fun b => (b.toNat : Int)
  index := m.index
  pc := m.pc
  stack := m.stack
  timers := m.timers
  keys := m.keypad.wide
  pixels := m.screen.wide
  dirty := m.screen.dirty
  wait := m.keyWait.wide
  fault := m.halt.map fun h => (h.fault, (h.pc : Int))
  cycles := m.cycles
  random := m.random

/-- The effect with its numbers as plain integers; nothing has gone wrong. -/
def Effect.wide (e : Effect) : Wide.Effect :=
  .ok (e.1.wide, e.2.map fun next => (next : Int))

variable (m : Machine) (r : Fin 16)

@[simp] theorem wide_config : m.wide.config = m.config := rfl

@[simp] theorem wide_memory : m.wide.memory = m.memory := rfl

@[simp] theorem wide_index : m.wide.index = m.index := rfl

@[simp] theorem wide_pc : m.wide.pc = m.pc := rfl

@[simp] theorem wide_stack : m.wide.stack = m.stack := rfl

@[simp] theorem wide_keys : m.wide.keys = m.keypad.wide := rfl

@[simp] theorem wide_pixels : m.wide.pixels = m.screen.wide := rfl

@[simp] theorem wide_wait : m.wide.wait = m.keyWait.wide := rfl

@[simp] theorem wide_reg : m.wide.reg r = .ok ((m.reg r).toNat : Int) := by
  have h : (r : Nat) < m.registers.toList.length := by simp
  simp [Wide.reg, wide, reg_eq_getElem]

theorem wide_setReg {v : Int} {b : UInt8} (h : v = b.toNat) :
    m.wide.setReg r v = .ok (m.setReg r b).wide := by
  have hr : (r : Nat) < m.wide.registers.length := by simp [wide]
  rw [Wide.setReg, if_pos hr, h]
  simp [wide, setReg, Vector.toList_set, List.map_set]

theorem wide_setFlagged {u v : Int} {a b : UInt8} (hu : u = a.toNat) (hv : v = b.toNat) :
    m.wide.setFlagged u r v = .ok (m.setFlagged a r b).wide := by
  rw [Wide.setFlagged, show (15 : Nat) = (flag : Fin 16) from rfl, wide_setReg m flag hu, ok_bind,
    wide_setReg _ r hv]
  rfl

theorem wide_flagOf {c c' : Bool} (h : c' = c) : Wide.flagOf c' = (flagOf c).toNat := by
  subst h
  cases c' <;> rfl

theorem wide_put {v : Int} {b : UInt8} (h : v = b.toNat) :
    (m.wide.setReg r v >>= Wide.advance) = (m.setReg r b).advance.wide := by
  rw [wide_setReg m r h]
  rfl

theorem wide_putFlagged {u v : Int} {a b : UInt8} (hu : u = a.toNat) (hv : v = b.toNat) :
    (m.wide.setFlagged u r v >>= Wide.advance) = (m.setFlagged a r b).advance.wide := by
  rw [wide_setFlagged m r hu hv]
  rfl

theorem wide_skipIf {c c' : Bool} (h : c' = c) : m.wide.skipIf c' = (m.skipIf c).wide := by
  subst h
  cases c' <;> rfl

theorem byteOf_toNat (b : UInt8) : Wide.byteOf b.toNat = .ok b := by
  have hb := b.toNat_lt
  rw [Wide.byteOf, if_pos (by omega)]
  refine congrArg Except.ok ((Wide.toNat_inj _ _).1 ?_)
  exact toNat_ofInt (by omega) (by omega)

theorem mapM_byteOf (bs : List UInt8) :
    (bs.map fun b => (b.toNat : Int)).mapM Wide.byteOf = .ok bs := by
  induction bs with
  | nil => rfl
  | cons b bs ih =>
    rw [List.map_cons, List.mapM_cons, byteOf_toNat, ok_bind, ih]
    rfl

theorem wide_storeAll_of_error {bytes : List UInt8} {e : Memory.OutOfBounds}
    (h : m.memory.load m.index bytes = .error e) (distance : Nat) :
    m.wide.storeAll (bytes.map fun b => (b.toNat : Int)) distance
      = Effect.wide (m.fail (.outOfBounds e)) := by
  simp only [Wide.storeAll, mapM_byteOf, ok_bind, wide_memory, wide_index, h]
  rfl

theorem wide_storeAll_of_ok {bytes : List UInt8} {memory : Memory}
    (h : m.memory.load m.index bytes = .ok memory) (distance : Nat) :
    m.wide.storeAll (bytes.map fun b => (b.toNat : Int)) distance
      = Effect.wide { m with memory := memory, index := m.index + distance }.advance := by
  simp only [Wide.storeAll, mapM_byteOf, ok_bind, wide_memory, wide_index, h]
  rfl

theorem wide_setFirstRegs (bytes : List UInt8) (h : bytes.length ≤ 16) :
    (m.setFirstRegs bytes).wide = { m.wide with
      registers := (bytes.map fun b => (b.toNat : Int))
        ++ m.wide.registers.drop bytes.length } := by
  have hr := congrArg (List.map fun b => (b.toNat : Int)) (toList_setFirstRegs m h)
  rw [List.map_append, List.map_drop] at hr
  simp only [wide, hr]
  rfl

/-- Putting bytes into the first registers and the index behind their place. -/
theorem wide_load (bytes : List UInt8) (distance : Nat) (hl : bytes.length = distance)
    (h : distance ≤ 16) :
    Wide.advance { m.wide with
        registers := (bytes.map fun b => (b.toNat : Int)) ++ m.wide.registers.drop distance
        index := m.wide.index + distance }
      = Effect.wide { m.setFirstRegs bytes with index := m.index + distance }.advance := by
  subst hl
  have hw := wide_setFirstRegs m bytes h
  have ho {w w' : Wide} (hw : w' = w) (i : Int) :
      Wide.advance { w with index := i } = Wide.advance { w' with index := i } := by rw [hw]
  refine (ho hw _).trans ?_
  generalize m.setFirstRegs bytes = m'
  rfl

theorem wide_drawSprite (f : Fields) : m.wide.drawSprite f = Effect.wide (m.drawSprite f) := by
  have hclear : m.wide.setReg 15 0 = .ok (m.setReg flag 0).wide := wide_setReg m flag rfl
  have hvisible : min (f.n : Int) (32 - (((m.setReg flag 0).reg f.y).toNat : Int) % 32)
      = (min (f.n : Nat) (32 - ((m.setReg flag 0).reg f.y).toNat % 32) : Nat) := by omega
  simp only [Wide.drawSprite, hclear, wide_reg, ok_bind, wide_memory, wide_index, hvisible,
    drawSprite]
  cases (m.setReg flag 0).memory.readBlock (m.setReg flag 0).index
      (min (f.n : Nat) (32 - ((m.setReg flag 0).reg f.y).toNat % 32) : Nat) with
  | error e => rfl
  | ok rows =>
    simp only [wide_pixels, Screen.wide_draw]
    cases ((m.setReg flag 0).screen.draw _ _ _).2 with
    | false => rfl
    | true =>
      exact wide_put { m.setReg flag 0 with
        screen := ((m.setReg flag 0).screen.draw _ _ _).1 } flag rfl

theorem wide_execute (op : Opcode) (f : Fields) (hpc : m.pc ≤ 65535) (ht : IsByte m.timers.delay) :
    m.wide.execute op f = Effect.wide (m.execute op f) := by
  have hb : (f.nn : Int) = (UInt8.ofNat f.nn).toNat := (toNat_ofNat f.nn_lt).symm
  cases op <;> simp only [Wide.execute, wide_reg, ok_bind]
  case clear => rfl
  case jump => rfl
  case loadIndex => rfl
  case jumpOffset =>
    rw [show (0 : Nat) = (first : Fin 16) from rfl, wide_reg]
    rfl
  case skipEqByte => exact wide_skipIf m (by rw [hb, beq_toNat])
  case skipNeByte => exact wide_skipIf m (by rw [hb, bne_toNat])
  case skipEqReg => exact wide_skipIf m (beq_toNat ..)
  case skipNeReg => exact wide_skipIf m (bne_toNat ..)
  case skipPressed | skipReleased =>
    rw [wide_keys, Keypad.wide_isPressed]
    exact wide_skipIf m rfl
  case loadByte => exact wide_put m f.x hb
  case addByte => exact wide_put m f.x (by rw [hb, add_toNat])
  case copy => exact wide_put m f.x rfl
  case or => exact wide_put m f.x (lor_toNat ..)
  case and => exact wide_put m f.x (land_toNat ..)
  case xor => exact wide_put m f.x (xor_toNat ..)
  case add => exact wide_putFlagged m f.x (wide_flagOf (carry_toNat ..)) (add_toNat ..)
  case sub => exact wide_putFlagged m f.x (wide_flagOf (lt_toNat ..)) (sub_toNat ..)
  case subFrom => exact wide_putFlagged m f.x (wide_flagOf (lt_toNat ..)) (sub_toNat ..)
  case shiftRight => exact wide_putFlagged m f.x (mod_two_toNat _) (div_two_toNat _)
  case shiftLeft => exact wide_putFlagged m f.x (top_toNat _) (two_mul_toNat _)
  case random => exact wide_put { m with random := m.random.draw.2 } f.x (land_byte _ f.nn_lt)
  case readDelay => exact wide_put m f.x (toNat_ofInt ht.1 ht.2).symm
  case setDelay => rfl
  case setSound =>
    simp only [execute, wide_config]
    cases m.config.soundOperand <;>
      · rw [wide_reg]
        rfl
  case addIndex =>
    have hc : decide (0xFFF < m.wide.index + ((m.reg f.x).toNat : Int))
        = decide (0xFFF < m.index + (m.reg f.x).toNat) := by
      show decide (0xFFF < (m.index : Int) + _) = _
      rw [decide_eq_decide]
      omega
    rw [show (15 : Nat) = (flag : Fin 16) from rfl, wide_setReg m flag (wide_flagOf hc)]
    rfl
  case glyph => rfl
  case ret =>
    simp only [execute, wide_stack]
    cases m.stack.pop <;> rfl
  case call =>
    simp only [execute, wide_stack, wide_pc]
    by_cases hu : m.stack.used = m.stack.depth
    · rw [CallStack.push_of_full hu]
      rfl
    · obtain ⟨s, hs⟩ := CallStack.exists_push hu hpc
      rw [hs]
      rfl
  case waitKey =>
    simp only [execute, wide_wait, wide_keys, KeyWait.wide_poll, ok_bind]
    cases (m.keyWait.poll m.keypad).2 with
    | none => rfl
    | some key =>
      have hk : (key : Nat) < 256 := by omega
      exact wide_put { m with keyWait := (m.keyWait.poll m.keypad).1 } f.x (toNat_ofNat hk).symm
  case decimal =>
    have hv : [((m.reg f.x).toNat : Int) / 100, ((m.reg f.x).toNat : Int) / 10 % 10,
        ((m.reg f.x).toNat : Int) % 10]
        = [m.reg f.x / 100, m.reg f.x / 10 % 10, m.reg f.x % 10].map
          fun b => (b.toNat : Int) := by
      simp
    rw [hv]
    simp only [execute]
    cases hl : m.memory.load m.index [m.reg f.x / 100, m.reg f.x / 10 % 10, m.reg f.x % 10] with
    | error e => exact wide_storeAll_of_error m hl 0
    | ok memory => exact wide_storeAll_of_ok m hl 0
  case store =>
    have hv : m.wide.registers.take (f.x + 1)
        = (m.firstRegs f.x).map fun b => (b.toNat : Int) := List.map_take.symm
    rw [hv]
    simp only [execute]
    cases hl : m.memory.load m.index (m.firstRegs f.x) with
    | error e => exact wide_storeAll_of_error m hl (f.x + 1)
    | ok memory => exact wide_storeAll_of_ok m hl (f.x + 1)
  case load =>
    simp only [execute, wide_memory, wide_index, Memory.readBlock_eq]
    cases hr : Memory.refusal? m.memory.size m.index (f.x + 1) with
    | some e => rfl
    | none =>
      have hl := Memory.length_block (Memory.refusal?_eq_none.1 hr)
      exact wide_load m _ (f.x + 1) hl (by omega)
  case draw => exact wide_drawSprite m f

end Machine

/-- The outcome of a step with its numbers as plain integers. -/
def Outcome.wide (o : Outcome) : Wide.Result :=
  ⟨o.pc, o.word?, o.halt?.map fun h => (h.fault, (h.pc : Int))⟩

theorem Outcome.isNone_wide (o : Outcome) : o.wide.fault?.isNone = o.ok := by
  cases o <;> rfl

namespace Machine

variable {c : Config} {m : Machine}

theorem Sound.wide_execute (hc : c.MemoryInRange) (h : Sound c m)
    (hpc : m.pc + 2 ≤ m.memory.size) (op : Opcode) (f : Fields) :
    m.wide.execute op f = Effect.wide (m.execute op f) := by
  have hmax : c.memorySize ≤ 0x10000 := hc.2
  have hsize := h.size
  exact Machine.wide_execute m op f (by omega) h.delay

/-- **A step on the numbers is a step, and nothing goes wrong in it.** -/
theorem Sound.wide_step (hc : c.MemoryInRange) (h : Sound c m) :
    m.wide.step = .ok (m.step.1.wide, m.step.2.wide) := by
  have hfault : m.halt = none → m.wide.fault = none := fun hm => by simp [wide, hm]
  have hword : m.wide.memory.readWord m.wide.pc = _ := m.memory.readWord_eq m.pc
  refine m.step_cases ?halted ?noWord ?noOpcode ?faulted ?ran
  case halted =>
    intro halt hm
    have hw : m.wide.fault = some (halt.fault, (halt.pc : Int)) := by simp [wide, hm]
    simp only [Wide.step, hw]
    rfl
  case noWord =>
    intro e hm hr
    simp only [Wide.step, hfault hm, hword, hr]
    rfl
  case noOpcode =>
    intro word hm hpc hw ho
    simp only [Wide.step, hfault hm, hword, Memory.refusal?_eq_none.2 hpc, Option.elim, ← hw, ho]
    rfl
  case faulted | ran =>
    intro word op m' _ hm hpc hw ho hx
    have hx' := h.wide_execute hc hpc op (Fields.ofWord word)
    rw [hx] at hx'
    simp only [Wide.step, hfault hm, hword, Memory.refusal?_eq_none.2 hpc, Option.elim, ← hw, ho,
      hx']
    rfl

theorem Sound.wide_burst (hc : c.MemoryInRange) (h : Sound c m) (n : Nat) :
    m.wide.burst n = .ok ((m.burst n).1.wide, (m.burst n).2.all Outcome.ok) := by
  induction n generalizing m with
  | zero => rfl
  | succ n ih =>
    rw [Wide.burst, h.wide_step hc, ok_bind, burst_succ]
    simp only [Outcome.isNone_wide]
    cases ho : m.step.2.ok with
    | true => simpa [ho] using ih h.step
    | false => simp [ho]; rfl

theorem all_ok (outcomes : List Outcome) :
    outcomes.all Outcome.ok = (outcomes.findSome? Outcome.halt?).isNone := by
  rw [Bool.eq_iff_iff, List.all_eq_true, Option.isNone_iff_eq_none, List.findSome?_eq_none_iff]
  simp only [Outcome.ok, Option.isNone_iff_eq_none]

theorem Sound.wide_runLatched (hc : c.MemoryInRange) (h : Sound c m) :
    m.wide.runLatched = .ok m.runLatched.1.wide := by
  rw [Wide.runLatched, runLatched]
  show (m.wide.burst m.config.instructionsPerFrame >>= _) = _
  rw [h.wide_burst hc, ok_bind, all_ok]
  rcases m.burst m.config.instructionsPerFrame with ⟨m', outcomes⟩
  simp only
  cases outcomes.findSome? Outcome.halt? <;> rfl

theorem registers_wide_replicate :
    (Vector.replicate 16 (0 : UInt8)).toList.map (fun b => (b.toNat : Int)) = .replicate 16 0 :=
  rfl

theorem wide_new (c : Config) (random : RandomSource) : (new c random).wide = .new c random := by
  simp only [wide, new, registers_wide_replicate, Keypad.wide_released, Screen.wide_blank]
  rfl

theorem wide_reset (m : Machine) : m.wide.reset = m.reset.wide := by
  simp only [wide, reset, registers_wide_replicate, Keypad.wide_released, Screen.clear,
    Screen.wide_blank]
  rfl

theorem wide_loadProgram (m : Machine) (program : List UInt8) :
    m.wide.loadProgram program = (m.loadProgram program).1.wide := by
  unfold Wide.loadProgram loadProgram
  rw [wide_reset]
  generalize m.reset = m'
  simp only [wide_memory]
  cases m'.memory.load Font.address Font.glyphs with
  | error e => rfl
  | ok memory =>
    simp only
    cases memory.load programStart program <;> rfl

theorem wide_latched (snapshot : Value) :
    Wide.latched? snapshot = (Keypad.latchHost snapshot).toOption.map Keypad.wide := by
  rw [Wide.latched?, Keypad.latchHost, snapshotOf]
  cases snapshot.truths? with
  | none => rfl
  | some entries =>
    simp only [ok_bind, Keypad.latch]
    by_cases hl : entries.length = 16
    · rw [if_pos hl, dif_pos hl]
      refine congrArg some (List.map_congr_left fun b _ => ?_)
      cases b <;> rfl
    · rw [if_neg hl, dif_neg hl]
      rfl

theorem Sound.wide_frame (hc : c.MemoryInRange) (h : Sound c m) {snapshot : Value}
    (hs : snapshot ≠ .null) :
    m.wide.act (.frame snapshot) = .ok (m.act (.frame snapshot)).wide := by
  rw [Wide.act, act, runFrameHost_eq m hs, wide_latched]
  · cases Keypad.latchHost snapshot with
    | error e => rfl
    | ok keypad => exact (h.latch keypad).wide_runLatched hc
  · exact hs

/-- **An action on the numbers is an action, and nothing goes wrong in it.** -/
theorem Sound.wide_act (hc : c.MemoryInRange) (h : Sound c m) (a : Action) :
    m.wide.act a = .ok (m.act a).wide := by
  cases a with
  | load program =>
    simp only [Wide.act, act, loadHost, wide_memory]
    cases program.toBytes m.memory.tooMany with
    | error e => rfl
    | ok bytes =>
      simp only [wide_loadProgram]
      rcases m.loadProgram bytes with ⟨m', _ | _⟩ <;> rfl
  | step =>
    rw [Wide.act, h.wide_step hc]
    rfl
  | frame snapshot =>
    by_cases hs : snapshot = .null
    · subst hs
      exact h.wide_runLatched hc
    · exact h.wide_frame hc hs
  | tick => rfl

/-- **The machines over plain numbers are the machines, and no action goes wrong in
one of them.** -/
theorem wide_reachable (hc : c.MemoryInRange) {random : RandomSource} {w : Wide} :
    Wide.Reachable c random w ↔ ∃ m, Reachable c random m ∧ m.wide = w := by
  constructor
  · intro h
    induction h with
    | new => exact ⟨new c random, .new, wide_new c random⟩
    | act a _ ha ih =>
      obtain ⟨m, hm, rfl⟩ := ih
      rw [(Sound.of_reachable hm).wide_act hc] at ha
      exact ⟨m.act a, .act a hm, Except.ok.inj ha⟩
  · rintro ⟨m, hm, rfl⟩
    induction hm with
    | new => exact wide_new c random ▸ .new
    | act a hm ih => exact .act a ih ((Sound.of_reachable hm).wide_act hc a)

end Machine
end ChipEight
