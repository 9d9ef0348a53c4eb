/-
# An observed key

A wait for a key that has observed one keeps it until the key comes up. Meanwhile the
machine stands at the instruction that waits (`Machine.AtWait`): nothing else runs, so
nothing can overwrite the word, move the program counter or take the key over. Every
move keeps it so (`Machine.kept_atWait`), a load because it forgets the key.

While the key is down a step of such a machine counts and does nothing else, and the
first step that sees it up hands it to the register of that instruction
(`Machine.step_of_observed`). A run therefore holds the machine for some moves, through
frames and ticks, and then delivers the key or ends (`Machine.exists_heldFor`).
-/

import ChipEight.Proofs.Reloading

namespace ChipEight

namespace Machine

variable {c : Config} {random : RandomSource} {m m' : Machine} {key : Fin 16}

/-- The machine stands at an instruction that waits for the release of a key. -/
structure AtWait (m : Machine) : Prop where
  mode : m.keyWait.mode = .onRelease
  running : m.halt = none
  fits : m.pc + 2 ≤ m.memory.size
  word : Opcode.ofWord? (m.memory.word m.pc) = some .waitKey

theorem execute_waitKey (m : Machine) (f : Fields) :
    m.execute .waitKey f = match (m.keyWait.poll m.keypad).2 with
      | none => ({ m with keyWait := (m.keyWait.poll m.keypad).1 }, .ok m.pc)
      | some key =>
        ({ m with keyWait := (m.keyWait.poll m.keypad).1 }.setReg f.x (UInt8.ofNat key),
          .ok (m.pc + 2)) := by
  simp only [execute]
  cases (m.keyWait.poll m.keypad).2 <;> rfl

/-- Every move keeps a machine with an observed key at its wait. -/
theorem kept_atWait : Kept fun m => ∀ key, m.keyWait.phase = .observed key → m.AtWait where
  load := by
    intro m program _ key hk
    obtain ⟨memory, pc, hl, -⟩ := m.exists_loadProgram program
    rw [hl] at hk
    cases hk
  step := by
    intro m h
    -- No other instruction runs while a key is observed, and none makes it so.
    have hother {op : Opcode} {f : Fields} {m' : Machine} {r : Except Fault Nat}
        (ho : Opcode.ofWord? (m.memory.word m.pc) = some op) (hx : m.execute op f = (m', r))
        (hne : op ≠ .waitKey) (key : Fin 16) : m'.keyWait.phase ≠ .observed key := by
      intro hk
      have same := (sameOutside_execute m op f).keyWait (decide_eq_false hne)
      rw [hx] at same
      exact hne (Option.some.inj (ho.symm.trans (h key (same ▸ hk)).word))
    refine m.step_cases ?halted ?noWord ?noOpcode ?faulted ?ran
    case halted => exact fun _ _ => h
    case noWord =>
      intro e _ hr key hk
      cases hr.symm.trans (Memory.refusal?_eq_none.2 (h key hk).fits)
    case noOpcode =>
      rintro word _ _ rfl ho key hk
      cases ho.symm.trans (h key hk).word
    case faulted =>
      rintro word op m' fault _ _ rfl ho hx key hk
      by_cases hop : op = .waitKey
      · subst hop
        rw [execute_waitKey] at hx
        split at hx <;> cases hx
      · exact absurd hk (hother ho hx hop key)
    case ran =>
      rintro word op m' next hm hpc rfl ho hx key hk
      by_cases hop : op = .waitKey
      · subst hop
        rw [execute_waitKey] at hx
        split at hx
        next hnone =>
          obtain ⟨rfl, hn⟩ := Prod.mk.inj hx
          obtain rfl := Except.ok.inj hn
          obtain ⟨hmode, -⟩ := KeyWait.poll_of_observed hk
          exact ⟨(m.keyWait.mode_poll m.keypad).trans hmode, hm, hpc, ho⟩
        next key' hsome =>
          obtain ⟨rfl, -⟩ := Prod.mk.inj hx
          obtain ⟨-, hnone, -⟩ := KeyWait.poll_of_observed hk
          cases hnone.symm.trans hsome
      · exact absurd hk (hother ho hx hop key)
  latch := by
    intro m keypad h key hk
    exact { h key hk with }
  tick := by
    intro m h key hk
    exact { h key hk with }

/-- **An observed key has its wait**, in every reachable machine. -/
theorem atWait_of_observed (h : Reachable c random m) (hk : m.keyWait.phase = .observed key) :
    m.AtWait :=
  kept_atWait.reachable (fun _ hk => by cases hk) h key hk

/-- The machine with an observed key put into the register that its instruction names,
behind that instruction. -/
def delivered (m : Machine) (key : Fin 16) : Machine :=
  { m.setReg (Fields.ofWord (m.memory.word m.pc)).x (UInt8.ofNat key) with
    keyWait := { m.keyWait with phase := .resolved key }
    pc := m.pc + 2
    cycles := m.cycles + 1 }

/-- **A step with an observed key** does nothing but count while the key is down, and
else delivers it. -/
theorem step_of_observed (h : m.AtWait) (hk : m.keyWait.phase = .observed key) :
    m.step = (if m.keypad.isPressed (key : Nat) then { m with cycles := m.cycles + 1 }
      else m.delivered key, .ran m.pc (m.memory.word m.pc)) := by
  have hpoll : m.keyWait.poll m.keypad = if m.keypad.isPressed (key : Nat)
      then (m.keyWait, none) else ({ m.keyWait with phase := .resolved key }, some key) := by
    rw [KeyWait.poll, hk]
    simp [KeyWait.settle, h.mode]
  have hx := m.execute_waitKey (Fields.ofWord (m.memory.word m.pc))
  rw [hpoll] at hx
  by_cases hd : m.keypad.isPressed (key : Nat)
  · rw [if_pos hd] at hx ⊢
    exact step_of_execute h.running h.fits rfl h.word hx
  · rw [if_neg hd] at hx ⊢
    exact step_of_execute h.running h.fits rfl h.word hx

/-- The second machine is the first, but that time has passed and keys may have moved. -/
def Held (m m' : Machine) : Prop :=
  m' = { m with timers := m'.timers, keypad := m'.keypad, cycles := m'.cycles }

theorem held_refl (m : Machine) : Held m m := rfl

namespace Held

theorem trans {m'' : Machine} (h : Held m m') (h' : Held m' m'') : Held m m'' := by
  rw [h', h]
  rfl

theorem atWait (h : Held m m') (hm : m.AtWait) : m'.AtWait := by
  rw [h]
  exact { hm with }

theorem phase (h : Held m m') : m'.keyWait.phase = m.keyWait.phase := by rw [h]

theorem pc (h : Held m m') : m'.pc = m.pc := by rw [h]

theorem memory (h : Held m m') : m'.memory = m.memory := by rw [h]

end Held

/-- The first `k` moves of a run hold the machine: those of them that are steps see the
key down and execute the one instruction that waits. -/
structure HeldFor (m : Machine) (key : Fin 16) (moves : List Move) (k : Nat) : Prop where
  le : k ≤ moves.length
  held : ∀ n ≤ k, Held m (m.run (moves.take n))
  steps : ∀ n < k, moves[n]? = some .step →
    (m.run (moves.take n)).keypad.isPressed (key : Nat) = true ∧
      (m.run (moves.take n)).step.2 = .ran m.pc (m.memory.word m.pc)

/-- Behind the first `k` moves of a run comes a step that sees the key up and delivers
it. -/
structure DeliversAfter (m : Machine) (key : Fin 16) (moves : List Move) (k : Nat) : Prop where
  step : moves[k]? = some .step
  up : (m.run (moves.take k)).keypad.isPressed (key : Nat) = false
  delivers : (m.run (moves.take k)).step
    = ((m.run (moves.take k)).delivered key, .ran m.pc (m.memory.word m.pc))

variable {a : Move} {moves : List Move} {k : Nat}

theorem heldFor_zero (m : Machine) (key : Fin 16) (moves : List Move) : m.HeldFor key moves 0 where
  le := Nat.zero_le _
  held := by
    intro n hn
    obtain rfl := Nat.le_zero.1 hn
    exact m.held_refl
  steps := fun n hn => absurd hn (Nat.not_lt_zero n)

/-- A move that holds the machine puts one more in front of those that do. -/
theorem HeldFor.cons (hmove : Held m (m.move a))
    (ha : a = .step → m.keypad.isPressed (key : Nat) = true ∧
      m.step.2 = .ran m.pc (m.memory.word m.pc))
    (h : (m.move a).HeldFor key moves k) : m.HeldFor key (a :: moves) (k + 1) where
  le := Nat.succ_le_succ h.le
  held := by
    intro n hn
    cases n with
    | zero => exact m.held_refl
    | succ n => exact hmove.trans (h.held n (Nat.le_of_succ_le_succ hn))
  steps := by
    intro n hn hs
    cases n with
    | zero => exact ha (Option.some.inj hs)
    | succ n =>
      have hstep := h.steps n (Nat.lt_of_succ_lt_succ hn) hs
      rw [hmove.pc, hmove.memory] at hstep
      exact hstep

theorem DeliversAfter.cons (hmove : Held m (m.move a))
    (h : (m.move a).DeliversAfter key moves k) : m.DeliversAfter key (a :: moves) (k + 1) where
  step := h.step
  up := h.up
  delivers := by
    have hd := h.delivers
    rw [hmove.pc, hmove.memory] at hd
    exact hd

/-- **A run holds the machine until it delivers the key**, or to its end. -/
theorem exists_heldFor (hm : m.AtWait) (hk : m.keyWait.phase = .observed key)
    (moves : List Move) :
    ∃ k, m.HeldFor key moves k ∧ (k = moves.length ∨ m.DeliversAfter key moves k) := by
  induction moves generalizing m with
  | nil => exact ⟨0, m.heldFor_zero key [], .inl rfl⟩
  | cons a moves ih =>
    have hmore (hmove : Held m (m.move a))
        (ha : a = .step → m.keypad.isPressed (key : Nat) = true ∧
          m.step.2 = .ran m.pc (m.memory.word m.pc)) :
        ∃ k, m.HeldFor key (a :: moves) k ∧
          (k = (a :: moves).length ∨ m.DeliversAfter key (a :: moves) k) := by
      obtain ⟨k, hheld, hend⟩ := ih (hmove.atWait hm) (hmove.phase.trans hk)
      exact ⟨k + 1, hheld.cons hmove ha, hend.imp (congrArg (· + 1)) (.cons hmove)⟩
    cases a with
    | latch keypad => exact hmore rfl fun hs => by cases hs
    | tick => exact hmore rfl fun hs => by cases hs
    | step =>
      have hstep := step_of_observed hm hk
      by_cases hd : m.keypad.isPressed (key : Nat)
      · rw [if_pos hd] at hstep
        refine hmore ?_ fun _ => ⟨hd, congrArg Prod.snd hstep⟩
        rw [move, hstep]
        rfl
      · rw [if_neg hd] at hstep
        exact ⟨0, m.heldFor_zero key _, .inr ⟨rfl, Bool.eq_false_iff.2 hd, hstep⟩⟩

/-- **An observed key stays with its wait.** A reachable machine that has observed a key
runs and stands at an instruction that waits for its release. Whatever steps, frames and
ticks are asked for then, they hold the machine, which executes that instruction alone,
until a step sees the key up; and that step puts the key into the register that the
instruction names and goes on behind it. -/
theorem observed_key_stays (h : Reachable c random m) (hk : m.keyWait.phase = .observed key) :
    m.AtWait ∧ m.pc + 2 ≤ c.memorySize ∧ ∀ requests : List Request,
      m.serveAll requests = m.run (m.allMoves requests) ∧
        (m.answers requests).flatMap Answer.outcomes = m.outcomes (m.allMoves requests) ∧
        ∃ k, m.HeldFor key (m.allMoves requests) k ∧
          (k = (m.allMoves requests).length ∨
            m.DeliversAfter key (m.allMoves requests) k) := by
  have hm := atWait_of_observed h hk
  refine ⟨hm, (Sound.of_reachable h).size ▸ hm.fits, fun requests => ?_⟩
  exact ⟨m.serveAll_eq_run requests, m.outcomes_answers requests, exists_heldFor hm hk _⟩

/-- A frame and a tick with the key still down, and a frame in which it comes up. -/
def lateRelease : List Request :=
  [.frame .null, .move .tick, .frame (.list (.replicate 16 (.int 0)))]

theorem observed_key_stays_waiting :
    waiting.keyWait.phase = .observed 15 ∧ waiting.memory.word waiting.pc = 0xF00A ∧
      (∃ k, waiting.HeldFor 15 (waiting.allMoves lateRelease) k ∧
        waiting.DeliversAfter 15 (waiting.allMoves lateRelease) k) ∧
      (waiting.serveAll lateRelease).reg 0 = 15 := by
  have hk : waiting.keyWait.phase = .observed 15 := by decide +kernel
  have hafter : (waiting.serveAll lateRelease).halt ≠ none ∧
      waiting.memory.word waiting.pc = 0xF00A ∧ (waiting.serveAll lateRelease).reg 0 = 15 := by
    decide +kernel
  obtain ⟨hhalt, hword, hreg⟩ := hafter
  obtain ⟨hm, -, hall⟩ := observed_key_stays reachable_waiting hk
  obtain ⟨hrun, -, k, hheld, hlength | hdelivers⟩ := hall lateRelease
  · -- The second step of the last frame fails, so the machine was not held to the end.
    have hend := hheld.held k (Nat.le_refl k)
    rw [hlength, List.take_length, ← hrun] at hend
    exact absurd (hend.atWait hm).running hhalt
  · exact ⟨hk, hword, ⟨k, hheld, hdelivers⟩, hreg⟩

end Machine
end ChipEight
