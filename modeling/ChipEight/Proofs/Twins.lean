/-
# Machines with the same random bytes

What a machine does depends on its source of random bytes through those bytes alone.
Two machines that differ but in their sources, and not in the bytes that these will
give, are twins (`Machine.Twins`). An instruction and a step answer the same on both and leave twins
behind, so twins keep together (`Machine.Twins.lockstep`) however many requests come
(`Machine.Twins.serveAll`).
-/

import ChipEight.Proofs.Footprint
import ChipEight.Proofs.Lockstep

namespace ChipEight

/-- Two sources give the same bytes. -/
def RandomSource.SameBytes (r s : RandomSource) : Prop :=
  ∀ n, UInt8.ofInt (r.stream n) = UInt8.ofInt (s.stream n)

namespace Machine

/-- The machine with another source of random bytes. -/
def withRandom (m : Machine) (random : RandomSource) : Machine := { m with random := random }

/-- The machines differ but in their sources of random bytes, which give the same. -/
structure Twins (m m' : Machine) : Prop where
  same : m' = m.withRandom m'.random
  bytes : m.random.SameBytes m'.random

variable {m m' : Machine} {r : RandomSource}

theorem execute_withRandom (m : Machine) (op : Opcode) (f : Fields)
    (hr : UInt8.ofInt r.draw.1 = UInt8.ofInt m.random.draw.1) :
    (m.withRandom r).execute op f
      = ((m.execute op f).1.withRandom (if op = .random then r.draw.2 else r),
        (m.execute op f).2) := by
  cases op
  case random =>
    dsimp only [execute, withRandom]
    rw [hr]
    rfl
  case draw =>
    dsimp only [execute, drawSprite, setReg, reg, withRandom]
    split
    · rfl
    · split <;> rfl
  case ret | call | decimal | store | load | waitKey =>
    dsimp only [execute, firstRegs, reg, withRandom]
    split <;> rfl
  all_goals rfl

namespace Twins

theorem pc (h : Twins m m') : m'.pc = m.pc := by rw [h.same, withRandom]

theorem halt (h : Twins m m') : m'.halt = m.halt := by rw [h.same, withRandom]

theorem memory (h : Twins m m') : m'.memory = m.memory := by rw [h.same, withRandom]

theorem config (h : Twins m m') : m'.config = m.config := by rw [h.same, withRandom]

/-- What does not look at the source of random bytes makes twins of twins. -/
theorem map {g : Machine → Machine} (hg : ∀ m r, g (m.withRandom r) = (g m).withRandom r)
    (hrandom : ∀ m, (g m).random = m.random) (h : Twins m m') : Twins (g m) (g m') where
  same := by rw [hrandom, ← hg, ← h.same]
  bytes := by
    rw [hrandom, hrandom]
    exact h.bytes

theorem draw_random (h : Twins m m') :
    UInt8.ofInt m'.random.draw.1 = UInt8.ofInt m.random.draw.1 ∧
      m.random.draw.2.SameBytes m'.random.draw.2 :=
  ⟨(h.bytes 0).symm, fun n => h.bytes (n + 1)⟩

/-- **Twins execute alike.** -/
theorem execute (h : Twins m m') (op : Opcode) (f : Fields) :
    Twins (m.execute op f).1 (m'.execute op f).1 ∧ (m'.execute op f).2 = (m.execute op f).2 := by
  obtain ⟨hdraw, hafter⟩ := h.draw_random
  have hx := execute_withRandom m op f hdraw
  rw [← h.same] at hx
  rw [hx]
  refine ⟨⟨rfl, ?_⟩, rfl⟩
  rw [random_execute]
  split
  · exact hafter
  · exact h.bytes

theorem stepwise : Stepwise Twins where
  pc := Twins.pc
  halt := Twins.halt
  stop := fun halt h => h.map (g := fun m => { m with halt := some halt }) (fun _ _ => rfl)
    fun _ => rfl
  next := fun pc h => h.map (g := fun m => { m with pc := pc, cycles := m.cycles + 1 })
    (fun _ _ => rfl) fun _ => rfl

/-- **Twins step alike.** -/
theorem step (h : Twins m m') : Twins m.step.1 m'.step.1 ∧ m'.step.2 = m.step.2 :=
  stepwise.step h (by rw [h.memory]) fun _ op _ _ => h.execute op _

theorem latch (h : Twins m m') (keypad : Keypad) :
    Twins { m with keypad := keypad } { m' with keypad := keypad } :=
  h.map (g := fun m => { m with keypad := keypad }) (fun _ _ => rfl) fun _ => rfl

theorem tick (h : Twins m m') : Twins m.tick m'.tick := h.map (fun _ _ => rfl) fun _ => rfl

/-- **Twins keep together**, whatever stops them. -/
theorem lockstep : Lockstep (fun _ => False) Twins where
  frames := fun h => by rw [h.config]
  step := fun h _ => h.step
  latch := fun keypad h => h.latch keypad
  tick := fun h => h.tick

/-- **Twins stay twins** and answer alike however many requests come. -/
theorem serveAll (h : Twins m m') (requests : List Request) :
    Twins (m.serveAll requests) (m'.serveAll requests) ∧
      m'.answers requests = m.answers requests :=
  lockstep.serveAll h requests fun ⟨_, _, hnever⟩ => hnever

end Twins
end Machine
end ChipEight
