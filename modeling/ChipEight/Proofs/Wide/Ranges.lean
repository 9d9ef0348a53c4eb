/-
# Plain numbers stay in their ranges

A machine over plain numbers is never anything but the numbers of a machine
(`Machine.wide_reachable`), and those are bytes, bits and addresses.
`Wide.InRange` lists the ranges. They hold after every history of a machine with a
memory of any size that a configuration may ask for, and no action of a host can go
wrong then.
-/

import ChipEight.Proofs.Wide.Erasure

namespace ChipEight
namespace Wide

/-- The number is dark or lit, up or down. -/
def IsBit (n : Int) : Prop := n = 0 ∨ n = 1

/-- Every part of the machine has its size, and every number in it its range. -/
structure InRange (c : Config) (w : Wide) : Prop where
  registers : w.registers.length = 16 ∧ ∀ v ∈ w.registers, Machine.IsByte v
  memory : w.memory.size = c.memorySize
  used : 0 ≤ w.stack.used ∧ w.stack.used ≤ 16
  live : ∀ a ∈ w.stack.live, a + 2 ≤ c.memorySize
  timers : Machine.IsByte w.timers.delay ∧ Machine.IsByte w.timers.sound
  keys : w.keys.length = 16 ∧ ∀ key ∈ w.keys, IsBit key
  pixels : w.pixels.length = 32 ∧ ∀ line ∈ w.pixels, line.length = 64 ∧ ∀ dot ∈ line, IsBit dot
  pc : 0 ≤ w.pc ∧ w.pc ≤ max (c.memorySize + 2) 0x10FE
  wait : (w.wait.key = none ↔ w.wait.state = .idle) ∧ ∀ key ∈ w.wait.key, 0 ≤ key ∧ key ≤ 15

theorem inRange_wide {c : Config} {m : Machine} (h : m.Sound c) : m.wide.InRange c where
  registers := by
    refine ⟨by simp [Machine.wide], fun v hv => ?_⟩
    obtain ⟨b, -, rfl⟩ := List.mem_map.1 hv
    have := b.toNat_lt
    exact ⟨by omega, by omega⟩
  memory := h.size
  used := ⟨Nat.zero_le _, m.stack.used_le.trans_eq h.depth⟩
  live := h.live
  timers := ⟨h.delay, h.sound⟩
  keys := ⟨m.keypad.length_wide, fun _ hk => m.keypad.mem_wide hk⟩
  pixels := ⟨m.screen.length_wide, fun _ hl => Screen.mem_wide hl⟩
  pc := by
    have hpc := h.pc
    rw [Machine.maxPc] at hpc
    have : m.wide.pc = (m.pc : Int) := rfl
    omega
  wait := ⟨m.keyWait.key_wide_eq_none, fun _ hk => KeyWait.mem_key_wide hk⟩

/-- **After every history every number is in its range**, the machine is that of a
history of the typed one, and nothing goes wrong next. -/
theorem inRange_of_reachable {c : Config} {random : RandomSource} {w : Wide}
    (hc : c.MemoryInRange) (h : Reachable c random w) :
    w.InRange c ∧ (∃ m, Machine.Reachable c random m ∧ m.wide = w) ∧
      ∀ a, ∃ w', w.act a = .ok w' := by
  obtain ⟨m, hm, rfl⟩ := (Machine.wide_reachable hc).1 h
  have hs := Machine.Sound.of_reachable hm
  exact ⟨inRange_wide hs, ⟨m, hm, rfl⟩, fun a => ⟨_, hs.wide_act hc a⟩⟩

/-- A machine that waits for the release of a key, with all keys down. -/
def holding : Machine :=
  ((Machine.new {} .zeros).act (.load (.bytes [0xF0, 0x0A]))).act
    (.frame (.list (.replicate 16 (.bool true))))

theorem inRange_of_reachable_holding :
    Config.MemoryInRange {} ∧ Reachable {} .zeros holding.wide ∧
      holding.wide.wait.key = some 15 ∧ holding.wide.InRange {} := by
  have hm : Machine.Reachable {} .zeros holding := .act _ (.act _ .new)
  have hw : Reachable {} .zeros holding.wide := (Machine.wide_reachable (by decide)).2 ⟨_, hm, rfl⟩
  exact ⟨by decide, hw, by decide +kernel, (inRange_of_reachable (by decide) hw).1⟩

end Wide
end ChipEight
