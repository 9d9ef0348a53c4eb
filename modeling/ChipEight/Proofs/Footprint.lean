/-
# What an instruction can write

A machine has eight parts that instructions write. `Opcode.writes` says which of
them an operation may touch; `sameOutside_execute` says that it leaves the others,
and the configuration, the program counter, the keypad, the halt and the count of
steps, as they were, whether it succeeds or fails. What becomes of a part that is
written is said part by part below it: a memory keeps its size, a stack its depth,
and so on.
-/

import ChipEight.Machine.Step

namespace ChipEight

/-- The parts of a machine that instructions write. -/
inductive Machine.Part
  | memory | registers | index | stack | timers | screen | keyWait | random
  deriving DecidableEq, Repr

/-- The operation may write the part. -/
def Opcode.writes (op : Opcode) : Machine.Part → Bool
  | .memory => op ∈ [.decimal, .store]
  | .registers => op ∈ [.loadByte, .addByte, .copy, .or, .and, .xor, .add, .sub, .shiftRight,
      .subFrom, .shiftLeft, .random, .draw, .readDelay, .waitKey, .addIndex, .load]
  | .index => op ∈ [.loadIndex, .addIndex, .glyph, .store, .load]
  | .stack => op ∈ [.ret, .call]
  | .timers => op ∈ [.setDelay, .setSound]
  | .screen => op ∈ [.clear, .draw]
  | .keyWait => op = .waitKey
  | .random => op = .random

/-- The registers that an operation sets: its destination, and the last one if it
defines a flag. -/
def Opcode.sets (op : Opcode) (f : Fields) (r : Fin 16) : Bool :=
  match op with
  | .loadByte | .addByte | .copy | .or | .and | .xor | .random | .readDelay | .waitKey => r = f.x
  | .add | .sub | .shiftRight | .subFrom | .shiftLeft => r = f.x || r = Machine.flag
  | .draw | .addIndex => r = Machine.flag
  | .load => r ≤ f.x
  | _ => false

/-- How many bytes an operation stores at the index. -/
def Opcode.stored (op : Opcode) (f : Fields) : Nat :=
  match op with
  | .decimal => 3
  | .store => f.x + 1
  | _ => 0

namespace Machine

/-- The second machine is the first but for parts that the operation may write. -/
structure SameOutside (op : Opcode) (m m' : Machine) : Prop where
  config : m'.config = m.config
  pc : m'.pc = m.pc
  keypad : m'.keypad = m.keypad
  halt : m'.halt = m.halt
  cycles : m'.cycles = m.cycles
  memory : op.writes .memory = false → m'.memory = m.memory
  registers : op.writes .registers = false → m'.registers = m.registers
  index : op.writes .index = false → m'.index = m.index
  stack : op.writes .stack = false → m'.stack = m.stack
  timers : op.writes .timers = false → m'.timers = m.timers
  screen : op.writes .screen = false → m'.screen = m.screen
  keyWait : op.writes .keyWait = false → m'.keyWait = m.keyWait
  random : op.writes .random = false → m'.random = m.random

/-- **An instruction keeps to its footprint**, also when it fails. -/
theorem sameOutside_execute (m : Machine) (op : Opcode) (f : Fields) :
    SameOutside op m (m.execute op f).1 := by
  cases op
  case draw =>
    simp only [execute, drawSprite]
    split
    · constructor <;> simp [Opcode.writes, fail, setReg]
    · constructor <;> simp [Opcode.writes, advance, setReg, apply_ite]
  case ret | call | decimal | store | load | waitKey =>
    simp only [execute]
    split <;> constructor <;> simp [Opcode.writes, fail, goTo, advance, setReg, setFirstRegs]
  all_goals
    constructor <;> simp [Opcode.writes, execute, advance, skipIf, goTo, setReg, setFlagged]

variable {m m' : Machine} {op : Opcode} {f : Fields}

/-- **What becomes of the memory:** it stays, or the instruction succeeds and the bytes
that it stores are loaded at the index. -/
theorem memory_execute (m : Machine) (op : Opcode) (f : Fields) :
    (m.execute op f).1.memory = m.memory ∨
      ∃ data next, data.length = op.stored f ∧ (m.execute op f).2 = .ok next ∧
        m.memory.load m.index data = .ok (m.execute op f).1.memory := by
  cases op
  case decimal =>
    simp only [execute]
    split
    · exact .inl rfl
    next h => exact .inr ⟨_, _, rfl, rfl, h⟩
  case store =>
    simp only [execute]
    split
    · exact .inl rfl
    next h => exact .inr ⟨_, _, length_firstRegs .., rfl, h⟩
  all_goals exact .inl ((sameOutside_execute m _ f).memory (by rfl))

/-- **No instruction changes the size of the memory.** -/
theorem size_execute (m : Machine) (op : Opcode) (f : Fields) :
    (m.execute op f).1.memory.size = m.memory.size := by
  obtain h | ⟨data, next, -, -, h⟩ := memory_execute m op f
  · rw [h]
  · exact Memory.size_load h

/-- **What becomes of the stack:** a call pushes the program counter, a return pops the
address behind which it goes on, and else it stays. -/
theorem stack_execute (m : Machine) (op : Opcode) (f : Fields) :
    (m.execute op f).1.stack = m.stack ∨
      m.stack.push m.pc = .ok (m.execute op f).1.stack ∨
        op = .ret ∧ ∃ a, m.stack.pop = .ok (a, (m.execute op f).1.stack) ∧
          (m.execute op f).2 = .ok (a + 2) := by
  cases op
  case call =>
    simp only [execute]
    split
    · exact .inl rfl
    next h => exact .inr (.inl h)
  case ret =>
    simp only [execute]
    split
    · exact .inl rfl
    next h => exact .inr (.inr ⟨trivial, _, h, rfl⟩)
  all_goals exact .inl ((sameOutside_execute m _ f).stack (by rfl))

theorem depth_execute (m : Machine) (op : Opcode) (f : Fields) :
    (m.execute op f).1.stack.depth = m.stack.depth := by
  obtain h | h | ⟨-, a, h, -⟩ := stack_execute m op f
  · rw [h]
  · exact CallStack.depth_push h
  · exact CallStack.depth_pop h

/-- **Only the address of a call joins the live addresses.** -/
theorem mem_live_execute {a : Nat} (ha : a ∈ (m.execute op f).1.stack.live) :
    a ∈ m.stack.live ∨ a = m.pc := by
  obtain h | h | ⟨-, b, h, -⟩ := stack_execute m op f
  · exact .inl (h ▸ ha)
  · rw [CallStack.live_push h] at ha
    simpa using ha
  · rw [CallStack.live_pop h]
    exact .inl (List.mem_append_left _ ha)

/-- **What becomes of the timers:** each stays or takes the byte of a register. -/
theorem timers_execute (m : Machine) (op : Opcode) (f : Fields) :
    ((m.execute op f).1.timers.delay = m.timers.delay ∨
        op = .setDelay ∧ ∃ r, (m.execute op f).1.timers.delay = (m.reg r).toNat) ∧
      ((m.execute op f).1.timers.sound = m.timers.sound ∨
        op = .setSound ∧ ∃ r, (m.execute op f).1.timers.sound = (m.reg r).toNat) := by
  cases op
  case setDelay => exact ⟨.inr ⟨rfl, _, rfl⟩, .inl rfl⟩
  case setSound => exact ⟨.inl rfl, .inr ⟨rfl, _, rfl⟩⟩
  all_goals
    rw [(sameOutside_execute m _ f).timers (by rfl)]
    exact ⟨.inl rfl, .inl rfl⟩

/-- **A key wait keeps its mode.** -/
theorem mode_execute (m : Machine) (op : Opcode) (f : Fields) :
    (m.execute op f).1.keyWait.mode = m.keyWait.mode := by
  by_cases h : op = .waitKey
  · subst h
    simp only [execute]
    split <;> exact m.keyWait.mode_poll m.keypad
  · rw [(sameOutside_execute m op f).keyWait (decide_eq_false h)]

/-- **What becomes of the source of random bytes:** one draw, or nothing. -/
theorem random_execute (m : Machine) (op : Opcode) (f : Fields) :
    (m.execute op f).1.random = if op = .random then m.random.draw.2 else m.random := by
  by_cases h : op = .random
  · subst h
    rfl
  · rw [if_neg h]
    exact (sameOutside_execute m op f).random (decide_eq_false h)

/-- **What becomes of the registers:** only those change that the operation sets. -/
theorem reg_execute {r : Fin 16} (h : op.sets f r = false) :
    (m.execute op f).1.reg r = m.reg r := by
  cases op
  case loadByte | addByte | copy | or | and | xor | readDelay =>
    exact reg_setReg_of_ne m _ (of_decide_eq_false h)
  case random => exact reg_setReg_of_ne { m with random := _ } _ (of_decide_eq_false h)
  case add | sub | shiftRight | subFrom | shiftLeft =>
    obtain ⟨hx, hf⟩ := Bool.or_eq_false_iff.1 h
    exact (reg_setReg_of_ne _ _ (of_decide_eq_false hx)).trans
      (reg_setReg_of_ne m _ (of_decide_eq_false hf))
  case addIndex => exact reg_setReg_of_ne m _ (of_decide_eq_false h)
  case draw =>
    have hf : r ≠ flag := of_decide_eq_false h
    have hclear : (m.setReg flag 0).reg r = m.reg r := reg_setReg_of_ne m 0 hf
    simp only [execute, drawSprite]
    split
    · exact hclear
    · simp only [advance]
      split
      · exact (reg_setReg_of_ne _ 1 hf).trans hclear
      · exact hclear
  case waitKey =>
    simp only [execute]
    split
    · rfl
    · exact reg_setReg_of_ne { m with keyWait := _ } _ (of_decide_eq_false h)
  case load =>
    simp only [execute]
    split
    · rfl
    next bytes hb =>
      have hlt : ¬ r ≤ f.x := of_decide_eq_false h
      have hl : bytes.length = f.x + 1 := Memory.length_readBlock hb
      have hindex (n : Machine) (i : Nat) : ({ n with index := i }.advance).1.reg r = n.reg r := rfl
      rw [hindex]
      exact reg_setFirstRegs_of_le m (by omega)
  all_goals exact congrArg (Vector.get · r) ((sameOutside_execute m _ f).registers (by rfl))

/-- **The index stays below `2 ^ 16` or inside the memory:** only the end of a
block of registers can be as large as the memory. -/
theorem index_execute (m : Machine) (op : Opcode) (f : Fields) :
    (m.execute op f).1.index ≤ max m.index (max 0xFFFF m.memory.size) := by
  cases op
  case loadIndex =>
    have := f.nnn_lt
    show f.nnn ≤ _
    omega
  case addIndex =>
    show (m.index + (m.reg f.x).toNat) % 65536 ≤ _
    omega
  case glyph =>
    have := (m.reg f.x).toNat_lt
    show 0 + (m.reg f.x).toNat * 5 ≤ _
    omega
  case store =>
    simp only [execute, Memory.load_eq, length_firstRegs]
    cases hr : Memory.refusal? m.memory.size m.index (f.x + 1) with
    | some e => exact Nat.le_max_left ..
    | none =>
      have := Memory.refusal?_eq_none.1 hr
      show m.index + f.x + 1 ≤ _
      omega
  case load =>
    simp only [execute, Memory.readBlock_eq]
    cases hr : Memory.refusal? m.memory.size m.index (f.x + 1) with
    | some e => exact Nat.le_max_left ..
    | none =>
      have := Memory.refusal?_eq_none.1 hr
      show m.index + f.x + 1 ≤ _
      omega
  all_goals
    rw [(sameOutside_execute m _ f).index (by rfl)]
    exact Nat.le_max_left ..

/-- The condition of a skip. -/
def skips (m : Machine) (op : Opcode) (f : Fields) : Bool :=
  match op with
  | .skipEqByte => (m.reg f.x).toNat = f.nn
  | .skipNeByte => (m.reg f.x).toNat ≠ f.nn
  | .skipEqReg => m.reg f.x = m.reg f.y
  | .skipNeReg => m.reg f.x ≠ m.reg f.y
  | .skipPressed => m.keypad.isPressed (m.reg f.x).toNat
  | .skipReleased => !m.keypad.isPressed (m.reg f.x).toNat
  | _ => false

/-- Where an instruction goes on if it succeeds. -/
def nextPc (m : Machine) (op : Opcode) (f : Fields) : Nat :=
  match op with
  | .jump | .call => f.nnn
  | .jumpOffset => (m.reg first).toNat + f.nnn
  | .ret => m.stack.live.getLastD 0 + 2
  | .waitKey => if (m.keyWait.poll m.keypad).2 = none then m.pc else m.pc + 2
  | _ => if m.skips op f then m.pc + 4 else m.pc + 2

theorem beq_ofNat_nn (b : UInt8) (f : Fields) :
    (b == UInt8.ofNat f.nn) = decide (b.toNat = f.nn) := by
  have hn : (UInt8.ofNat f.nn).toNat = f.nn := UInt8.toNat_ofNat_of_lt f.nn_lt
  rw [Bool.eq_iff_iff, beq_iff_eq, decide_eq_true_iff, ← UInt8.toNat_inj, hn]

/-- **An instruction that succeeds goes on where it should.** -/
theorem next_execute {next : Nat} (h : (m.execute op f).2 = .ok next) : next = m.nextPc op f := by
  cases op
  case ret =>
    simp only [execute] at h
    split at h
    · cases h
    next hs =>
      obtain rfl := Except.ok.inj h
      simp [nextPc, CallStack.live_pop hs]
  case call | decimal | store =>
    simp only [execute] at h
    split at h
    · cases h
    · obtain rfl := Except.ok.inj h
      rfl
  case load =>
    simp only [execute] at h
    split at h
    · cases h
    · obtain rfl := Except.ok.inj h
      rw [pc_setFirstRegs]
      rfl
  case draw =>
    simp only [execute, drawSprite] at h
    split at h
    · cases h
    · obtain rfl := Except.ok.inj h
      split <;> rfl
  case waitKey =>
    simp only [execute] at h
    simp only [nextPc]
    split at h
    next hk =>
      obtain rfl := Except.ok.inj h
      rw [if_pos hk]
    next hk =>
      obtain rfl := Except.ok.inj h
      rw [if_neg (by simp [hk])]
      rfl
  case skipEqByte =>
    obtain rfl := Except.ok.inj h
    simp only [nextPc, skips, beq_ofNat_nn]
    rfl
  case skipNeByte =>
    obtain rfl := Except.ok.inj h
    simp only [nextPc, skips, bne, beq_ofNat_nn, decide_not]
  case skipEqReg | skipNeReg =>
    obtain rfl := Except.ok.inj h
    simp only [nextPc, skips, bne, decide_not]
    rfl
  all_goals exact (Except.ok.inj h).symm

/-- **How far an instruction goes:** a little further, to an address that twelve bits
and a byte can name, or behind a call. -/
theorem next_execute_cases {next : Nat} (h : (m.execute op f).2 = .ok next) :
    next ≤ m.pc + 4 ∨ next ≤ 0x10FE ∨ ∃ a ∈ m.stack.live, next = a + 2 := by
  have hnnn := f.nnn_lt
  cases op
  case ret =>
    simp only [execute] at h
    split at h
    · cases h
    next hs =>
      obtain rfl := Except.ok.inj h
      exact .inr (.inr ⟨_, CallStack.live_pop hs ▸ by simp, rfl⟩)
  case jump | call =>
    obtain rfl := next_execute h
    exact .inr (.inl (show f.nnn ≤ _ by omega))
  case jumpOffset =>
    obtain rfl := next_execute h
    have := (m.reg first).toNat_lt
    exact .inr (.inl (show (m.reg first).toNat + f.nnn ≤ _ by omega))
  case waitKey =>
    obtain rfl := next_execute h
    simp only [nextPc]
    split <;> omega
  all_goals
    obtain rfl := next_execute h
    simp only [nextPc]
    split <;> omega

end Machine
end ChipEight
