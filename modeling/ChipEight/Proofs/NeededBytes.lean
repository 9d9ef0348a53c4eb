/-
# Which bytes an instruction needs

Four instructions go to the memory at the index: the digits of a register, the registers
stored and loaded, and a draw, which needs the rows of its sprite that are on screen
(`Machine.Needs`). All of them ask for their bytes at once, by the two ends of the range
(`Machine.needs_iff`), and what they report is the first address of the range that is not
there (`Machine.refusal_eq_some`).

That is the first byte that is needed and missing, if a byte is needed at all
(`isLeast_missing`). A draw of no rows needs none, and yet it is refused if the index is
beyond the memory (`Machine.overflow_needed_iff`).
-/

import ChipEight.Proofs.SpriteOrigin
import Mathlib.Order.Bounds.Basic

namespace ChipEight

/-- The first number of a range that is not below a bound. -/
theorem isLeast_missing {start count size a : Nat} :
    IsLeast {b | (start ≤ b ∧ b < start + count) ∧ size ≤ b} a ↔
      0 < count ∧ size < start + count ∧ a = max start size := by
  constructor
  · rintro ⟨⟨⟨hstart, hlt⟩, hsize⟩, hleast⟩
    have hmem : max start size ∈ {b | (start ≤ b ∧ b < start + count) ∧ size ≤ b} := by
      refine ⟨⟨?_, ?_⟩, ?_⟩ <;> omega
    have hle : a ≤ max start size := hleast hmem
    refine ⟨?_, ?_, ?_⟩ <;> omega
  · rintro ⟨hcount, hlt, rfl⟩
    refine ⟨⟨⟨?_, ?_⟩, ?_⟩, fun b hb => ?_⟩
    · omega
    · omega
    · omega
    · obtain ⟨⟨hstart, -⟩, hsize⟩ := hb
      omega

/-- The operation goes to the memory at the index. -/
def Opcode.usesIndex (op : Opcode) : Bool := op ∈ [.draw, .decimal, .store, .load]

namespace Machine

variable {m : Machine} {op : Opcode} {f : Fields} {e : Memory.OutOfBounds} {address : Nat}

/-- An instruction has to read or to write the byte at an address. Of a sprite these are
the rows above the bottom edge. -/
def Needs (m : Machine) (op : Opcode) (f : Fields) (address : Nat) : Prop :=
  match op with
  | .decimal => ∃ i < 3, address = m.index + i
  | .store | .load => ∃ i ≤ f.x.val, address = m.index + i
  | .draw => ∃ i < f.n.val, m.originY f % 32 + i < 32 ∧ address = m.index + i
  | _ => False

/-- A byte that an instruction needs is not there, and no byte before it is missing. -/
def FirstMissing (m : Machine) (op : Opcode) (f : Fields) (address : Nat) : Prop :=
  IsLeast {b | m.Needs op f b ∧ m.memory.size ≤ b} address

/-- An instruction draws nothing, from beyond the memory. -/
def DrawsNothingBeyond (m : Machine) (op : Opcode) (f : Fields) : Prop :=
  op = .draw ∧ f.n = 0 ∧ m.memory.size < m.index

/-- How many bytes from the index on an instruction asks for. -/
def asked (m : Machine) (op : Opcode) (f : Fields) : Nat :=
  match op with
  | .decimal => 3
  | .store | .load => f.x + 1
  | .draw => m.visibleRows f
  | _ => 0

/-- **The bytes that are needed are those asked for.** -/
theorem needs_iff : m.Needs op f address ↔ m.index ≤ address ∧ address < m.index + m.asked op f := by
  have hrange (n : Nat) (P : Nat → Prop) (hP : ∀ i, P i ↔ i < n) :
      (∃ i, P i ∧ address = m.index + i) ↔ m.index ≤ address ∧ address < m.index + n := by
    constructor
    · rintro ⟨i, hi, rfl⟩
      have := (hP i).1 hi
      omega
    · rintro ⟨hle, hlt⟩
      exact ⟨address - m.index, (hP _).2 (by omega), by omega⟩
  cases op
  case decimal => exact hrange 3 _ fun i => Iff.rfl
  case store | load => exact hrange (f.x + 1) _ fun i => Nat.lt_succ_iff.symm
  case draw =>
    have hvisible (i : Nat) : i < f.n ∧ m.originY f % 32 + i < 32 ↔ i < m.visibleRows f := by
      rw [visibleRows, ← originY]
      omega
    have hneeds := hrange (m.visibleRows f) _ hvisible
    simp only [and_assoc] at hneeds
    exact hneeds
  all_goals
    simp only [Needs, asked, false_iff]
    omega

theorem firstMissing_iff : m.FirstMissing op f address ↔
    0 < m.asked op f ∧ m.memory.size < m.index + m.asked op f ∧
      address = max m.index m.memory.size := by
  rw [FirstMissing, ← isLeast_missing]
  simp only [needs_iff]

/-- Only a draw of no rows asks for nothing. -/
theorem asked_eq_zero (hop : op.usesIndex = true) : m.asked op f = 0 ↔ op = .draw ∧ f.n = 0 := by
  have hn : f.n = 0 ↔ (f.n : Nat) = 0 := Fin.ext_iff
  cases op <;> cases hop
  case draw =>
    simp only [asked, visibleRows, true_and, hn]
    omega
  all_goals simp [asked]

/-- **What is reported of the bytes asked for:** the first address of the range that is
not there. -/
theorem refusal_eq_some (hop : op.usesIndex = true) :
    m.refusal? op f = some (.outOfBounds e) ↔
      m.memory.size < m.index + m.asked op f ∧ e = ⟨max m.index m.memory.size, m.memory.size⟩ := by
  have hasked : m.refusal? op f = m.blockFault? (m.asked op f) := by
    cases op <;> cases hop <;> rfl
  rw [hasked, blockFault?, Memory.refusal?]
  split
  next h =>
    simp only [Option.map_some, Option.some.injEq, Fault.outOfBounds.injEq, h, true_and]
    exact eq_comm
  next h => simp [h]

/-- **An overflow is reported of a byte that is needed and missing, or of none at all.** -/
theorem refusal_eq_some_iff (hop : op.usesIndex = true) :
    m.refusal? op f = some (.outOfBounds e) ↔
      e.size = m.memory.size ∧
        ((∃ a : Nat, e.address = a ∧ m.FirstMissing op f a) ∨
          (m.DrawsNothingBeyond op f ∧ e.address = m.index)) := by
  rw [refusal_eq_some hop]
  constructor
  · rintro ⟨hlt, rfl⟩
    refine ⟨rfl, ?_⟩
    obtain hnone | hsome := Nat.eq_zero_or_pos (m.asked op f)
    · obtain ⟨hdraw, hn⟩ := (asked_eq_zero hop).1 hnone
      refine .inr ⟨⟨hdraw, hn, by omega⟩, ?_⟩
      show max (m.index : Int) m.memory.size = m.index
      omega
    · refine .inl ⟨max m.index m.memory.size, ?_, firstMissing_iff.2 ⟨hsome, hlt, rfl⟩⟩
      show max (m.index : Int) m.memory.size = (max m.index m.memory.size : Nat)
      omega
  · rintro ⟨hsize, hcause⟩
    obtain ⟨address, size⟩ := e
    obtain rfl : size = m.memory.size := hsize
    rw [Memory.OutOfBounds.mk.injEq]
    obtain ⟨a, ha, hfirst⟩ | ⟨⟨hdraw, hn, hlt⟩, ha⟩ := hcause
    · obtain ⟨-, hlt, rfl⟩ := firstMissing_iff.1 hfirst
      have ha' : address = (max m.index m.memory.size : Nat) := ha
      exact ⟨hlt, by omega, rfl⟩
    · have ha' : address = m.index := ha
      exact ⟨by omega, by omega, rfl⟩

/-- A draw of nothing misses no byte. -/
theorem not_firstMissing (h : m.DrawsNothingBeyond op f) : ¬ m.FirstMissing op f address := by
  obtain ⟨rfl, hn, -⟩ := h
  intro hfirst
  have hasked : m.asked .draw f = 0 := (asked_eq_zero rfl).2 ⟨rfl, hn⟩
  have hpos := (firstMissing_iff.1 hfirst).1
  omega

/-- The fault of a step that fetched an operation is that of the operation. -/
theorem Sound.halt_step_of_fetched {c : Config} (hc : c.MemoryInRange) (h : Sound c m)
    (hm : m.halt = none) (hop : m.fetched? = some op) :
    m.step.2.halt?
      = (m.refusal? op (Fields.ofWord (m.memory.word m.pc))).map fun fault => ⟨fault, m.pc⟩ := by
  obtain ⟨hpc, ho⟩ := fetched?_eq_some.1 hop
  have hdue : m.dueFault? = m.refusal? op (Fields.ofWord (m.memory.word m.pc)) :=
    dueFault?_of_word hpc ho
  rw [← hdue]
  obtain ⟨fault, word?, hd, hs⟩ | ⟨hd, m', word, hs⟩ := h.step_cases hc hm
  · rw [hs, hd]
    show some (Halt.mk fault m.leftBehind.pc) = some ⟨fault, m.pc⟩
    rw [pc_leftBehind]
  · rw [hs, hd]
    rfl

/-- **An overflow is reported of a missing byte, unless nothing is drawn from beyond the
memory.** When an instruction that goes to the memory at the index reports an overflow,
some byte that it needs is missing and the address reported is the first such one; or it
is a draw of no rows, which needs none, and the index is beyond the memory. -/
theorem overflow_needed_iff {c : Config} {random : RandomSource} (hc : c.MemoryInRange)
    (h : Reachable c random m) (hm : m.halt = none) (hop : m.fetched? = some op)
    (huse : op.usesIndex = true) :
    let f := Fields.ofWord (m.memory.word m.pc)
    ((∀ e pc, m.step.2.halt? = some ⟨.outOfBounds e, pc⟩ →
        ∃ a : Nat, e.address = a ∧ m.FirstMissing op f a) ↔ ¬ m.DrawsNothingBeyond op f) ∧
      ∀ e pc, m.step.2.halt? = some ⟨.outOfBounds e, pc⟩ ↔
        pc = m.pc ∧ e.size = m.memory.size ∧
          ((∃ a : Nat, e.address = a ∧ m.FirstMissing op f a) ∨
            (m.DrawsNothingBeyond op f ∧ e.address = m.index)) := by
  intro f
  have hfault : ∀ e pc, m.step.2.halt? = some ⟨.outOfBounds e, pc⟩ ↔
      pc = m.pc ∧ m.refusal? op f = some (.outOfBounds e) := by
    intro e pc
    rw [(Sound.of_reachable h).halt_step_of_fetched hc hm hop]
    simp only [Option.map_eq_some_iff, Halt.mk.injEq]
    constructor
    · rintro ⟨fault, hr, rfl, rfl⟩
      exact ⟨rfl, hr⟩
    · rintro ⟨rfl, hr⟩
      exact ⟨_, hr, rfl, rfl⟩
  constructor
  · constructor
    · intro hmissing hnothing
      obtain ⟨a, -, hfirst⟩ := hmissing ⟨m.index, m.memory.size⟩ m.pc
        ((hfault _ _).2 ⟨rfl, (refusal_eq_some_iff huse).2 ⟨rfl, .inr ⟨hnothing, rfl⟩⟩⟩)
      exact not_firstMissing hnothing hfirst
    · intro hnot e pc he
      obtain ⟨-, hmissing | ⟨hnothing, -⟩⟩ := (refusal_eq_some_iff huse).1 ((hfault e pc).1 he).2
      · exact hmissing
      · exact absurd hnothing hnot
  · intro e pc
    rw [hfault, refusal_eq_some_iff huse]

theorem overflow_needed_iff_beforeDraw :
    beforeDraw.halt = none ∧ beforeDraw.fetched? = some .draw ∧
      beforeDraw.step.2.halt? = some ⟨.outOfBounds ⟨0x1000, 0x1000⟩, 0x204⟩ ∧
      beforeDraw.FirstMissing .draw (Fields.ofWord (beforeDraw.memory.word beforeDraw.pc))
        0x1000 := by
  have hfacts : beforeDraw.halt = none ∧ beforeDraw.fetched? = some .draw ∧
      beforeDraw.step.2.halt? = some ⟨.outOfBounds ⟨0x1000, 0x1000⟩, 0x204⟩ ∧
      (Fields.ofWord (beforeDraw.memory.word beforeDraw.pc)).n ≠ 0 := by
    decide +kernel
  obtain ⟨hm, hop, hfault, hrows⟩ := hfacts
  obtain ⟨hmissing, -⟩ := overflow_needed_iff (by decide) reachable_beforeDraw hm hop rfl
  obtain ⟨a, ha, hfirst⟩ := hmissing.2 (fun hnothing => hrows hnothing.2.1) _ _ hfault
  obtain rfl : 0x1000 = a := Int.ofNat_inj.1 ha
  exact ⟨hm, hop, hfault, hfirst⟩

/-- A machine about to draw nothing, with the index beyond its memory. -/
def beforeNothing : Machine :=
  ((new { memorySize := 0x204 } .zeros).act (.load (.bytes [0xAF, 0xFF, 0xD0, 0x00]))).act .step

/-- **An overflow may be false**: no byte is needed, and yet a missing one is reported. -/
theorem overflow_of_nothing : ¬ ∀ (c : Config) (random : RandomSource) (m : Machine) (op : Opcode),
    c.MemoryInRange → Reachable c random m → m.halt = none → m.fetched? = some op →
      op.usesIndex = true → ∀ e pc, m.step.2.halt? = some ⟨.outOfBounds e, pc⟩ →
        ∃ a : Nat, e.address = a ∧
          m.FirstMissing op (Fields.ofWord (m.memory.word m.pc)) a := by
  intro h
  have hr : Reachable { memorySize := 0x204 } .zeros beforeNothing := .act .step (.act _ .new)
  have hfacts : beforeNothing.halt = none ∧ beforeNothing.fetched? = some .draw ∧
      beforeNothing.step.2.halt? = some ⟨.outOfBounds ⟨0xFFF, 0x204⟩, 0x202⟩ ∧
      (Fields.ofWord (beforeNothing.memory.word beforeNothing.pc)).n = 0 ∧
      beforeNothing.memory.size < beforeNothing.index := by
    decide +kernel
  obtain ⟨hm, hop, hfault, hrows, hbeyond⟩ := hfacts
  obtain ⟨a, -, hfirst⟩ := h _ _ beforeNothing .draw (by decide) hr hm hop rfl _ _ hfault
  exact not_firstMissing ⟨rfl, hrows, hbeyond⟩ hfirst

end Machine
end ChipEight
