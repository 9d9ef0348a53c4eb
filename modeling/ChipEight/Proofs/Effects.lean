/-
# What a step changes

`Machine.Effects` says of a step that executed an operation where it goes on and what it
leaves alone, part by part, register by register and byte by byte; every step that
succeeds is of that kind (`Machine.effects_of_ran`). A step changes a byte only if it
stores at it (`Machine.byte_step`), so along a run a byte keeps its value until some
step does (`Machine.byte_run`).
-/

import ChipEight.Proofs.Footprint
import ChipEight.Proofs.Run

namespace ChipEight.Machine

variable {m m' : Machine} {op : Opcode} {f : Fields} {pc word next address : Nat}

/-- The operation stores at the address: it is one of those from the index on. -/
def Covers (m : Machine) (op : Opcode) (f : Fields) (address : Nat) : Prop :=
  m.index ≤ address ∧ address < m.index + op.stored f

instance (m : Machine) (op : Opcode) (f : Fields) (address : Nat) :
    Decidable (m.Covers op f address) :=
  inferInstanceAs (Decidable (_ ∧ _))

/-- The next step succeeds and stores at the address. -/
def storesAt (m : Machine) (address : Nat) : Bool :=
  match m.step.2 with
  | .ran _ word => (Opcode.ofWord? word).any fun op => m.Covers op (Fields.ofWord word) address
  | _ => false

/-- What a step that executes an operation makes of a machine: where it goes on, and
what it leaves as it was. -/
structure Effects (op : Opcode) (f : Fields) (m m' : Machine) : Prop where
  pc : m'.pc = m.nextPc op f
  cycles : m'.cycles = m.cycles + 1
  config : m'.config = m.config
  keypad : m'.keypad = m.keypad
  halt : m'.halt = m.halt
  size : m'.memory.size = m.memory.size
  memory : ∀ address, ¬ m.Covers op f address → m'.memory.byte address = m.memory.byte address
  registers : ∀ r, op.sets f r = false → m'.reg r = m.reg r
  index : op.writes .index = false → m'.index = m.index
  stack : op.writes .stack = false → m'.stack = m.stack
  delay : op ≠ .setDelay → m'.timers.delay = m.timers.delay
  sound : op ≠ .setSound → m'.timers.sound = m.timers.sound
  screen : op.writes .screen = false → m'.screen = m.screen
  keyWait : op.writes .keyWait = false → m'.keyWait = m.keyWait
  random : m'.random = if op = .random then m.random.draw.2 else m.random

theorem byte_execute (h : ¬ m.Covers op f address) :
    (m.execute op f).1.memory.byte address = m.memory.byte address := by
  obtain hm | ⟨data, next, hd, -, hm⟩ := memory_execute m op f
  · rw [hm]
  · refine Memory.byte_load_of_outside hm ?_
    rw [hd]
    exact h

theorem effects_of_execute (hx : m.execute op f = (m', .ok next)) :
    Effects op f m { m' with pc := next, cycles := m'.cycles + 1 } := by
  have hnext : next = m.nextPc op f := next_execute (congrArg Prod.snd hx)
  obtain rfl : (m.execute op f).1 = m' := congrArg Prod.fst hx
  have same := sameOutside_execute m op f
  have ⟨hdelay, hsound⟩ := timers_execute m op f
  exact {
    pc := hnext
    cycles := congrArg (· + 1) same.cycles
    config := same.config
    keypad := same.keypad
    halt := same.halt
    size := size_execute m op f
    memory := fun _ => byte_execute
    registers := fun _ => reg_execute
    index := same.index
    stack := same.stack
    delay := fun hne => hdelay.resolve_right fun h => hne h.1
    sound := fun hne => hsound.resolve_right fun h => hne h.1
    screen := same.screen
    keyWait := same.keyWait
    random := random_execute m op f }

/-- **A step that succeeds has the effects of its operation**, and no others. -/
theorem effects_of_ran (h : m.step.2 = .ran pc word) :
    pc = m.pc ∧ word = m.memory.word pc ∧
      ∃ op, Opcode.ofWord? word = some op ∧ Effects op (Fields.ofWord word) m m.step.1 := by
  obtain ⟨rfl, hword, op, m', next, ho, hx, hs⟩ := execute_of_ran h
  refine ⟨rfl, hword, op, ho, ?_⟩
  rw [hs]
  exact effects_of_execute hx

/-- A step that fails leaves the memory as it was. -/
theorem memory_step_of_not_ok (h : m.step.2.ok = false) : m.step.1.memory = m.memory := by
  refine step_inherits_of_not_ok h rfl ?execute (fun _ _ _ h => h)
  intro op f m' fault hx
  have hm := memory_execute m op f
  rw [hx] at hm
  obtain hm | ⟨_, _, -, hn, -⟩ := hm
  · exact hm
  · cases hn

/-- **A step changes a byte only if it stores at it.** -/
theorem byte_step (h : m.storesAt address = false) :
    m.step.1.memory.byte address = m.memory.byte address := by
  cases ho : m.step.2 with
  | ran pc word =>
    obtain ⟨-, -, op, hop, effects⟩ := effects_of_ran ho
    refine effects.memory address ?_
    simpa only [storesAt, ho, hop, Option.any_some, decide_eq_false_iff_not] using h
  | stopped _ _ => rw [memory_step_of_not_ok (by rw [ho]; rfl)]
  | halted _ => rw [memory_step_of_not_ok (by rw [ho]; rfl)]

/-- **A byte keeps its value along a run** of which no step stores at it. -/
theorem byte_run {moves : List Move}
    (h : ∀ n, moves[n]? = some .step → (m.run (moves.take n)).storesAt address = false) :
    (m.run moves).memory.byte address = m.memory.byte address := by
  induction moves generalizing m with
  | nil => rfl
  | cons a moves ih =>
    have hrest : ((m.move a).run moves).memory.byte address
        = (m.move a).memory.byte address := ih fun n hn => h (n + 1) hn
    rw [run_cons, hrest]
    cases a with
    | step => exact byte_step (h 0 rfl)
    | latch keypad => rfl
    | tick => rfl

/-- **What every instruction does and leaves alone.** A step that succeeds has executed
the word at the program counter, goes on where its operation says and changes nothing but
what that operation may. Along any run, from a machine just loaded or any other, a byte
changes only by a step that stores at it. -/
theorem effects_and_kept_bytes (m : Machine) :
    (∀ pc word, m.step.2 = .ran pc word → pc = m.pc ∧ word = m.memory.word pc ∧
      ∃ op, Opcode.ofWord? word = some op ∧ Effects op (Fields.ofWord word) m m.step.1) ∧
    ∀ (moves : List Move) (address : Nat),
      (∀ n, moves[n]? = some .step → (m.run (moves.take n)).storesAt address = false) →
        (m.run moves).memory.byte address = m.memory.byte address :=
  ⟨fun _ _ => effects_of_ran, fun _ _ => byte_run⟩

/-- A machine about to store two bytes at the end of its memory, with two bytes of data
before them. -/
def beforeStore : Machine :=
  ((new { memorySize := 0x20A } .zeros).act
    (.load (.bytes [0xA2, 0x08, 0xF1, 0x55, 0xC3, 0xFF, 0xAB, 0xCD]))).act .step

theorem effects_and_kept_bytes_beforeStore :
    beforeStore.step.2 = .ran 0x202 0xF155 ∧ beforeStore.storesAt 0x209 = true ∧
      Effects .store (Fields.ofWord 0xF155) beforeStore beforeStore.step.1 ∧
      (beforeStore.run [.step, .latch .released, .step, .tick]).memory.byte 0x207 = 0xCD := by
  have hstart : beforeStore.step.2 = .ran 0x202 0xF155 ∧ beforeStore.storesAt 0x209 = true ∧
      beforeStore.memory.byte 0x207 = 0xCD ∧
      ∀ n < 4, [Move.step, .latch .released, .step, .tick][n]? = some .step →
        (beforeStore.run ([Move.step, .latch .released, .step, .tick].take n)).storesAt 0x207
          = false := by
    decide +kernel
  obtain ⟨hran, hstores, hbyte, hkept⟩ := hstart
  obtain ⟨heffects, hrun⟩ := effects_and_kept_bytes beforeStore
  obtain ⟨-, -, op, ho, he⟩ := heffects _ _ hran
  obtain rfl : Opcode.store = op := Option.some.inj ho
  refine ⟨hran, hstores, he, hbyte ▸ hrun _ 0x207 fun n hn => hkept n ?_ hn⟩
  exact (List.getElem?_eq_some_iff.1 hn).1

end ChipEight.Machine
