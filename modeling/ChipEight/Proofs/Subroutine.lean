/-
# Calls and returns

What a step does to the live addresses is one of three things (`Machine.live_step`): it
leaves them, puts the program counter behind them, or takes the last one off, and then
the word was `00EE` and the machine goes on behind that address. So while the stack is
deeper than before a call, the addresses from before and that of the call stay where
they are, whatever runs in between (`Machine.prefix_live_run`), and the step that brings
the depth back is the return of that call.
-/

import ChipEight.Proofs.Fault
import ChipEight.Proofs.Run

namespace ChipEight

theorem Memory.word_lt (m : Memory) (address : Nat) : m.word address < 65536 := by
  have := (m.byte address).toNat_lt
  have := (m.byte (address + 1)).toNat_lt
  unfold word
  omega

/-- Only one word of a memory is a return. -/
theorem Memory.word_of_ret {m : Memory} {address : Nat}
    (h : Opcode.ofWord? (m.word address) = some .ret) : m.word address = 0x00EE := by
  have hf := Opcode.fits_of_ofWord? h
  have hw := Fields.toWord_ofWord (m.word address)
  have := m.word_lt address
  simp only [Opcode.encoding, Encoding.fits, Bool.and_eq_true, decide_eq_true_eq] at hf
  simp only [Fields.toWord, Fields.nnn] at hw
  omega

namespace Machine

variable {m : Machine} {below : List Nat} {a : Nat}

/-- **What a step does to the live addresses.** -/
theorem live_step (m : Machine) :
    m.step.1.stack.live = m.stack.live ∨ m.step.1.stack.live = m.stack.live ++ [m.pc] ∨
      ∃ a, m.step.2 = .ran m.pc 0x00EE ∧ m.step.1.pc = a + 2 ∧
        m.stack.live = m.step.1.stack.live ++ [a] := by
  refine m.step_cases ?halted ?noWord ?noOpcode ?faulted ?ran
  case halted => exact fun _ _ => .inl rfl
  case noWord => exact fun _ _ _ => .inl rfl
  case noOpcode => exact fun _ _ _ _ _ => .inl rfl
  case faulted =>
    intro word op m' fault _ _ _ _ hx
    have hs := stack_execute m op (Fields.ofWord word)
    rw [hx] at hs
    obtain h | h | ⟨-, a, -, h⟩ := hs
    · exact .inl (congrArg CallStack.live h)
    · exact .inr (.inl (CallStack.live_push h))
    · cases h
  case ran =>
    rintro word op m' next _ _ rfl ho hx
    have hs := stack_execute m op (Fields.ofWord (m.memory.word m.pc))
    rw [hx] at hs
    obtain h | h | ⟨rfl, a, h, hn⟩ := hs
    · exact .inl (congrArg CallStack.live h)
    · exact .inr (.inl (CallStack.live_push h))
    · refine .inr (.inr ⟨a, ?_, Except.ok.inj hn, CallStack.live_pop h⟩)
      rw [Memory.word_of_ret ho]

/-- A step keeps an address and those below it, or returns behind that address. -/
theorem prefix_live_step (h : below ++ [a] <+: m.stack.live) :
    below ++ [a] <+: m.step.1.stack.live ∨
      m.step.2 = .ran m.pc 0x00EE ∧ m.step.1.pc = a + 2 ∧ m.step.1.stack.live = below := by
  obtain ⟨above, ha⟩ := h
  obtain hl | hl | ⟨b, ho, hpc, hl⟩ := m.live_step
  · exact .inl ⟨above, ha.trans hl.symm⟩
  · exact .inl ⟨above ++ [m.pc], by rw [← List.append_assoc, ha, hl]⟩
  · rw [hl] at ha
    obtain rfl | ⟨above', c, rfl⟩ := List.eq_nil_or_concat above
    · rw [List.append_nil] at ha
      obtain ⟨rfl, hab⟩ := List.append_inj' ha rfl
      obtain rfl : a = b := List.singleton_inj.1 hab
      exact .inr ⟨ho, hpc, rfl⟩
    · rw [List.concat_eq_append, ← List.append_assoc] at ha
      exact .inl ⟨above', (List.append_inj' ha rfl).1⟩

theorem length_lt_used (h : below ++ [a] <+: m.stack.live) : below.length < m.stack.used := by
  have hl := h.length_le
  rw [List.length_append, CallStack.length_live] at hl
  exact hl

/-- A move keeps an address and those below it, or is the return behind that address. -/
theorem prefix_live_move (h : below ++ [a] <+: m.stack.live) (b : Move) :
    below ++ [a] <+: (m.move b).stack.live ∨
      b = .step ∧ m.step.2 = .ran m.pc 0x00EE ∧ m.step.1.pc = a + 2 ∧
        m.step.1.stack.live = below := by
  cases b with
  | step => exact (prefix_live_step h).imp_right fun hreturn => ⟨rfl, hreturn⟩
  | latch keypad => exact .inl h
  | tick => exact .inl h

/-- **A run that never comes back to a depth keeps the addresses up to it** and the one
on top of them. -/
theorem prefix_live_run (h : below ++ [a] <+: m.stack.live) (moves : List Move)
    (hdeep : ∀ n ≤ moves.length, (m.run (moves.take n)).stack.used ≠ below.length) :
    below ++ [a] <+: (m.run moves).stack.live := by
  induction moves generalizing m with
  | nil => exact h
  | cons b moves ih =>
    rw [run_cons]
    refine ih ?inside fun n hn => ?deep
    case inside =>
      refine (prefix_live_move h b).resolve_right ?_
      rintro ⟨rfl, -, -, hl⟩
      refine hdeep 1 (Nat.succ_pos _) ?_
      rw [← hl, CallStack.length_live]
      rfl
    case deep =>
      have := hdeep (n + 1) (Nat.succ_le_succ hn)
      rwa [List.take_succ_cons, run_cons] at this

/-- A call with room on the stack puts its own address on top. -/
theorem Sound.live_call {c : Config} (hc : c.MemoryInRange) (h : Sound c m) (hm : m.halt = none)
    (hcall : m.fetched? = some .call) (hroom : m.stack.used < stackDepth) :
    m.step.1.stack.live = m.stack.live ++ [m.pc] := by
  obtain ⟨hpc, ho⟩ := fetched?_eq_some.1 hcall
  have hmax : c.memorySize ≤ 0x10000 := hc.2
  have hsize := h.size
  have hfree : m.stack.used ≠ m.stack.depth := by rw [h.depth]; omega
  have haddress : m.pc ≤ 65535 := by omega
  obtain ⟨s, hs⟩ := CallStack.exists_push hfree haddress
  have hx : m.execute .call (Fields.ofWord (m.memory.word m.pc))
      = ({ m with stack := s }, .ok (Fields.ofWord (m.memory.word m.pc)).nnn) := by
    simp only [Machine.execute, hs]
    rfl
  rw [step_of_execute hm hpc rfl ho hx]
  exact CallStack.live_push hs

/-- **A subroutine returns behind its call.** After a call, whatever runs, is latched or
ticks: the first move that brings the depth of the stack back is the return of that
call, which goes on behind it with the live addresses as they were. -/
theorem call_returns {c : Config} {random : RandomSource} (hc : c.MemoryInRange)
    (h : Reachable c random m) (hm : m.halt = none) (hcall : m.fetched? = some .call)
    (hroom : m.stack.used < stackDepth) (moves : List Move)
    (hback : (m.run (.step :: moves)).stack.used = m.stack.used)
    (hfirst : ∀ n < moves.length, (m.run (.step :: moves.take n)).stack.used ≠ m.stack.used) :
    ∃ before, moves = before ++ [.step] ∧
      (m.run (.step :: before)).step.2 = .ran (m.run (.step :: before)).pc 0x00EE ∧
      (m.run (.step :: moves)).pc = m.pc + 2 ∧
      (m.run (.step :: moves)).stack.live = m.stack.live := by
  have hlive := (Sound.of_reachable h).live_call hc hm hcall hroom
  have hinside : m.stack.live ++ [m.pc] <+: (m.run [.step]).stack.live :=
    ⟨[], (List.append_nil _).trans hlive.symm⟩
  rw [← CallStack.length_live m.stack] at hback hfirst
  obtain rfl | ⟨before, last, rfl⟩ := List.eq_nil_or_concat moves
  · exact absurd hback (Nat.ne_of_gt (length_lt_used hinside))
  · rw [List.concat_eq_append] at *
    have hdeep : m.stack.live ++ [m.pc] <+: (m.run (.step :: before)).stack.live := by
      refine prefix_live_run hinside before fun n hn => ?_
      have := hfirst n (by rw [List.length_append]; exact Nat.lt_succ_of_le hn)
      rwa [List.take_append_of_le_length hn] at this
    have hrun : m.run (.step :: (before ++ [last])) = (m.run (.step :: before)).move last :=
      run_append m (.step :: before) [last]
    rw [hrun] at hback ⊢
    obtain hp | ⟨rfl, hreturn⟩ := prefix_live_move hdeep last
    · exact absurd hback (Nat.ne_of_gt (length_lt_used hp))
    · exact ⟨before, rfl, hreturn⟩

/-- A program and three subroutines, each calling the next. -/
def nested : List UInt8 := [
  0x22, 0x04,
  0x12, 0x02,
  0x22, 0x08,
  0x00, 0xEE,
  0x22, 0x0C,
  0x00, 0xEE,
  0x00, 0xEE]

/-- A machine inside the first subroutine, about to call the second, in a memory without
a byte to spare. -/
def insideNested : Machine :=
  ((new { memorySize := 0x20E } .zeros).act (.load (.bytes nested))).act .step

theorem reachable_insideNested : Reachable { memorySize := 0x20E } .zeros insideNested :=
  .act .step (.act _ .new)

/-- What happens there after the call: the second subroutine calls the third, and both
return. -/
def throughNested : List Move := [.step, .latch .released, .step, .tick, .step]

theorem call_returns_insideNested :
    insideNested.fetched? = some .call ∧ insideNested.pc = 0x204 ∧
      insideNested.stack.live = [0x200] ∧
      ∃ before, throughNested = before ++ [.step] ∧
        (insideNested.run (.step :: before)).step.2
          = .ran (insideNested.run (.step :: before)).pc 0x00EE ∧
        (insideNested.run (.step :: throughNested)).pc = insideNested.pc + 2 ∧
        (insideNested.run (.step :: throughNested)).stack.live = insideNested.stack.live := by
  have hstart : insideNested.fetched? = some .call ∧ insideNested.pc = 0x204 ∧
      insideNested.stack.live = [0x200] ∧ insideNested.halt = none ∧
      insideNested.stack.used < stackDepth := by decide +kernel
  have hrun : (insideNested.run (.step :: throughNested)).stack.used = insideNested.stack.used ∧
      ∀ n < throughNested.length,
        (insideNested.run (.step :: throughNested.take n)).stack.used ≠ insideNested.stack.used := by
    decide +kernel
  obtain ⟨hcall, hpc, hlive, hm, hroom⟩ := hstart
  exact ⟨hcall, hpc, hlive, call_returns (by decide) reachable_insideNested hm hcall hroom
    throughNested hrun.1 hrun.2⟩

end Machine
end ChipEight
