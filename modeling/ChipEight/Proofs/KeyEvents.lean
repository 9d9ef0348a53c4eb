/-
# Keys on their way to a program

Symbols are pressed and released at a keyboard, and each frame latches what is down then.
A key is down at a keyboard exactly if the last event that concerned it was a press
(`Keyboard.get_afterAll`), also where several symbols work one key. A frame latches just
that (`Keyboard.latch_snapshot`), and none of its steps moves a key
(`Machine.keypad_steps`), so all of them see the keys as the events before the frame have
left them (`Console.keys_reach_frames`).
-/

import ChipEight.Proofs.Frames
import ChipEight.Keyboard
import Mathlib.Data.List.Induction

namespace ChipEight

namespace Keyboard

variable {σ : Type} [BEq σ] {k : Keyboard σ} {symbol : σ} {key : Fin 16}

/-- What can happen at a keyboard. -/
inductive Event (σ : Type)
  | press (symbol : σ)
  | release (symbol : σ)
  | releaseAll
  deriving DecidableEq, Repr

/-- The event is that of a symbol which goes down. -/
def Event.isPress : Event σ → Bool
  | .press _ => true
  | _ => false

/-- The event concerns the key: its symbol works it, or all keys come up. -/
def concerns (k : Keyboard σ) (key : Fin 16) : Event σ → Bool
  | .press symbol | .release symbol => k.key? symbol = some (key : Int)
  | .releaseAll => true

/-- The last of the events that concern the key is a press. -/
def lastPressed (k : Keyboard σ) (key : Fin 16) (events : List (Event σ)) : Bool :=
  (events.filter (k.concerns key)).getLast?.any Event.isPress

/-- The keyboard after a symbol has moved; one that is refused moves nothing. -/
def moved (k : Keyboard σ) : Except NoSuchKey (Keyboard σ × Bool) → Keyboard σ
  | .ok (k, _) => k
  | .error _ => k

/-- The keyboard after an event. -/
def after (k : Keyboard σ) : Event σ → Keyboard σ
  | .press symbol => k.moved (k.press symbol)
  | .release symbol => k.moved (k.release symbol)
  | .releaseAll => k.releaseAll

/-- The keyboard after a row of events. -/
def afterAll (k : Keyboard σ) (events : List (Event σ)) : Keyboard σ := events.foldl after k

/-- Every symbol of the keymap works a key that exists. -/
def Proper (keymap : List (σ × Int)) : Prop := ∀ entry ∈ keymap, 0 ≤ entry.2 ∧ entry.2 < 16

instance (keymap : List (σ × Int)) : Decidable (Proper keymap) :=
  inferInstanceAs (Decidable (∀ entry ∈ keymap, 0 ≤ entry.2 ∧ entry.2 < 16))

theorem exists_mem_of_lookup {keymap : List (σ × Int)} {n : Int}
    (h : keymap.lookup symbol = some n) : ∃ s, (s, n) ∈ keymap := by
  induction keymap with
  | nil => cases h
  | cons entry keymap ih =>
    rw [List.lookup_cons] at h
    split at h
    · exact ⟨entry.1, Option.some.inj h ▸ List.mem_cons_self⟩
    · obtain ⟨s, hs⟩ := ih h
      exact ⟨s, List.mem_cons_of_mem _ hs⟩

/-- The key of a symbol exists. -/
theorem exists_key (hk : Proper k.keymap) {n : Int} (h : k.key? symbol = some n) :
    ∃ key : Fin 16, n = (key : Int) ∧ place? n = some key := by
  obtain ⟨s, hs⟩ := exists_mem_of_lookup h
  have hn : 0 ≤ n ∧ n < 16 := hk _ (List.mem_reverse.1 hs)
  refine ⟨⟨n.toNat, toNat_lt_of_nonneg hn⟩, (Int.toNat_of_nonneg hn.1).symm, ?_⟩
  rw [place?, dif_pos hn]

/-- **A symbol moves its key alone**, and none if it has no key. -/
theorem move_cases (hk : Proper k.keymap) (symbol : σ) (isDown : Bool) :
    k.key? symbol = none ∧ k.move symbol isDown = .ok (k, false) ∨
      ∃ key : Fin 16, k.key? symbol = some (key : Int) ∧
        k.move symbol isDown
          = .ok ({ k with down := k.down.set key isDown (place_lt key) }, true) := by
  rw [move]
  cases h : k.key? symbol with
  | none => exact .inl ⟨rfl, rfl⟩
  | some n =>
    obtain ⟨key, rfl, hplace⟩ := exists_key hk h
    exact .inr ⟨key, rfl, by simp only [hplace]⟩

theorem keymap_after (hk : Proper k.keymap) (e : Event σ) : (k.after e).keymap = k.keymap := by
  cases e with
  | press symbol =>
    obtain ⟨-, hm⟩ | ⟨key, -, hm⟩ := move_cases hk symbol true <;> rw [after, press, hm] <;> rfl
  | release symbol =>
    obtain ⟨-, hm⟩ | ⟨key, -, hm⟩ := move_cases hk symbol false <;>
      rw [after, release, hm] <;> rfl
  | releaseAll => rfl

theorem get_set (down : Vector Bool 16) (place key : Fin 16) (isDown : Bool) :
    (down.set place isDown (place_lt place)).get key
      = if (place : Int) = (key : Int) then isDown else down.get key := by
  show (down.set place isDown (place_lt place))[(key : Nat)] = _
  rw [Vector.getElem_set]
  simp only [Int.natCast_inj]
  rfl

theorem get_moved (hk : Proper k.keymap) (symbol : σ) (isDown : Bool) :
    (k.moved (k.move symbol isDown)).down.get key
      = if k.key? symbol = some (key : Int) then isDown else k.down.get key := by
  obtain ⟨hkey, hm⟩ | ⟨place, hkey, hm⟩ := move_cases hk symbol isDown
  · rw [hm, hkey, if_neg (by rintro ⟨⟩)]
    rfl
  · rw [hm, hkey]
    simp only [moved, get_set, Option.some.injEq]

/-- **What an event does to a key:** nothing if it does not concern it. -/
theorem get_after (hk : Proper k.keymap) (e : Event σ) :
    (k.after e).down.get key = if k.concerns key e then e.isPress else k.down.get key := by
  cases e with
  | press symbol =>
    simp only [concerns, decide_eq_true_eq]
    exact get_moved hk symbol true
  | release symbol =>
    simp only [concerns, decide_eq_true_eq]
    exact get_moved hk symbol false
  | releaseAll =>
    show (Vector.replicate 16 false)[(key : Nat)] = false
    exact Vector.getElem_replicate _

@[simp] theorem afterAll_append (k : Keyboard σ) (before after : List (Event σ)) :
    k.afterAll (before ++ after) = (k.afterAll before).afterAll after := List.foldl_append

theorem keymap_afterAll (hk : Proper k.keymap) (events : List (Event σ)) :
    (k.afterAll events).keymap = k.keymap := by
  induction events generalizing k with
  | nil => rfl
  | cons e events ih =>
    have he := keymap_after hk e
    exact (ih (he.symm ▸ hk)).trans he

theorem concerns_congr {k' : Keyboard σ} (h : k'.keymap = k.keymap) (key : Fin 16)
    (e : Event σ) : k'.concerns key e = k.concerns key e := by
  have hkey (symbol : σ) : k'.key? symbol = k.key? symbol := by rw [key?, key?, h]
  cases e with
  | press symbol | release symbol => rw [concerns, concerns, hkey]
  | releaseAll => rfl

/-- **The last event that concerns a key says whether it is down**, if all were up. -/
theorem get_afterAll (hk : Proper k.keymap) (hup : k.down.get key = false)
    (events : List (Event σ)) : (k.afterAll events).down.get key = k.lastPressed key events := by
  induction events using List.reverseRecOn with
  | nil => exact hup
  | append_singleton events e ih =>
    have hkeymap := keymap_afterAll hk events
    have hlast : (k.afterAll (events ++ [e])).down.get key
        = ((k.afterAll events).after e).down.get key := by
      rw [afterAll_append]
      rfl
    rw [hlast, get_after (hkeymap.symm ▸ hk), concerns_congr hkeymap, ih, lastPressed,
      lastPressed, List.filter_append]
    by_cases hc : k.concerns key e = true
    · rw [if_pos hc, List.filter_cons_of_pos hc, List.filter_nil, List.getLast?_concat]
      rfl
    · rw [if_neg hc, List.filter_cons_of_neg hc, List.filter_nil, List.append_nil]

end Keyboard

/-- **A frame latches what is down at a keyboard.** -/
theorem Keyboard.latch_snapshot {σ : Type} (k : Keyboard σ) :
    Keypad.latch k.snapshot = .ok ⟨k.down⟩ := by
  rw [Keypad.latch, dif_pos k.length_snapshot]
  rfl

/-- **A frame shows the keys of a keyboard** whose snapshot it is given. -/
theorem Machine.runFrame_snapshot {σ : Type} (m : Machine) (k : Keyboard σ) :
    m.runFrame (some k.snapshot) = .ok { m with keypad := ⟨k.down⟩ }.runLatched := by
  rw [runFrame, latch, k.latch_snapshot]
  rfl

namespace Machine

/-- A step leaves the keypad as it was. -/
theorem keypad_step (m : Machine) : m.step.1.keypad = m.keypad :=
  step_inherits rfl (fun op f => (sameOutside_execute m op f).keypad) (fun _ _ _ h => h)
    (fun _ _ _ h => h)

/-- **All steps of a frame see the same keys.** -/
theorem keypad_steps (m : Machine) (n : Nat) : (m.steps n).keypad = m.keypad := by
  induction n with
  | zero => rfl
  | succ n ih => rw [← step_steps, keypad_step, ih]

theorem getElem?_outcomes_steps (m : Machine) {n k : Nat} (hn : n < k) :
    (m.outcomes (.replicate k .step))[n]? = some (m.steps n).step.2 := by
  induction n generalizing m k with
  | zero =>
    cases k with
    | zero => cases hn
    | succ k => rfl
  | succ n ih =>
    cases k with
    | zero => cases hn
    | succ k =>
      rw [steps_succ, ← ih m.step.1 (Nat.lt_of_succ_lt_succ hn)]
      rfl

/-- **The outcomes of a frame are those of its steps.** -/
theorem getElem?_outcomes_runLatched (m : Machine) {n : Nat}
    (hn : n < m.runLatched.2.outcomes.length) :
    m.runLatched.2.outcomes[n]? = some (m.steps n).step.2 := by
  rw [runLatched_snd] at hn ⊢
  obtain ⟨-, houtcomes⟩ := m.burst_eq_run m.config.instructionsPerFrame
  dsimp only at hn ⊢
  rw [houtcomes]
  exact m.getElem?_outcomes_steps hn

end Machine

/-- The outcomes are those of the machine's steps, and all of these see the same keys. -/
def Machine.Sees (m : Machine) (outcomes : List Outcome) (down : Fin 16 → Bool) : Prop :=
  ∀ n < outcomes.length, outcomes[n]? = some (m.steps n).step.2 ∧
    ∀ key : Fin 16, (m.steps n).keypad.isPressed (key : Nat) = down key

theorem Machine.sees_runLatched (m : Machine) :
    m.Sees m.runLatched.2.outcomes m.keypad.down.get := by
  refine fun n hn => ⟨m.getElem?_outcomes_runLatched hn, fun key => ?_⟩
  rw [keypad_steps, Keypad.isPressed_key]

/-- **A snapshot that is not sixteen entries long is refused**, and nothing happens. -/
theorem Machine.refuses_length (m : Machine) {snapshot : Value} {entries : List Bool}
    (he : snapshot.truths? = some entries) (hl : entries.length ≠ 16) :
    m.runFrameHost snapshot = .error (.badLength ⟨entries.length⟩) ∧
      m.act (.frame snapshot) = m := by
  have hs : snapshot ≠ .null := by
    rintro rfl
    cases he
  have hk : Keypad.latchHost snapshot = .error (.badLength ⟨entries.length⟩) := by
    rw [Keypad.latchHost, snapshotOf, he]
    show (Keypad.latch entries).mapError _ = _
    rw [Keypad.latch, dif_neg hl]
    rfl
  have hr : m.runFrameHost snapshot = .error (.badLength ⟨entries.length⟩) := by
    rw [runFrameHost_eq m hs, hk]
    rfl
  exact ⟨hr, by rw [act, hr]⟩

/-- A keyboard and a machine whose frames show it. -/
structure Console (σ : Type) where
  keyboard : Keyboard σ
  machine : Machine

namespace Console

variable {σ : Type} [BEq σ]

/-- What can happen at a console. The late events of a frame come between its snapshot and
its steps. -/
inductive Event (σ : Type)
  | key (e : Keyboard.Event σ)
  | frame (late : List (Keyboard.Event σ))
  deriving DecidableEq, Repr

/-- What happens at the keyboard. -/
def Event.keys : Event σ → List (Keyboard.Event σ)
  | .key e => [e]
  | .frame late => late

/-- A console with all keys up. -/
def start (keymap : List (σ × Int)) (m : Machine) : Console σ := ⟨{ keymap := keymap }, m⟩

/-- The console after an event. -/
def after (t : Console σ) : Event σ → Console σ
  | .key e => { t with keyboard := t.keyboard.after e }
  | .frame late =>
    { keyboard := t.keyboard.afterAll late
      machine :=
        match t.machine.runFrame (some t.keyboard.snapshot) with
        | .ok (m, _) => m
        | .error _ => t.machine }

/-- The console after a row of events. -/
def afterAll (t : Console σ) (events : List (Event σ)) : Console σ := events.foldl after t

theorem keyboard_afterAll (t : Console σ) (events : List (Event σ)) :
    (t.afterAll events).keyboard = t.keyboard.afterAll (events.flatMap Event.keys) := by
  induction events generalizing t with
  | nil => rfl
  | cons e events ih =>
    rw [List.flatMap_cons, Keyboard.afterAll_append]
    have he : (t.after e).keyboard = t.keyboard.afterAll e.keys := by cases e <;> rfl
    rw [← he]
    exact ih (t.after e)

theorem after_frame (t : Console σ) (late : List (Keyboard.Event σ)) :
    t.after (.frame late) = ⟨t.keyboard.afterAll late,
      { t.machine with keypad := ⟨t.keyboard.down⟩ }.runLatched.1⟩ := by
  rw [after, Machine.runFrame_snapshot]

/-- Between frames the machine stays as it is. -/
theorem machine_afterAll_keys (t : Console σ) (events : List (Keyboard.Event σ)) :
    (t.afterAll (events.map .key)).machine = t.machine := by
  induction events generalizing t with
  | nil => rfl
  | cons e events ih => exact ih (t.after (.key e))

/-- **What is down at a console** is what the events of the keyboard say. -/
theorem down_afterAll {keymap : List (σ × Int)} (hk : Keyboard.Proper keymap) (m : Machine)
    (events : List (Event σ)) :
    ((start keymap m).afterAll events).keyboard.down.get
      = fun key => Keyboard.lastPressed { keymap := keymap } key (events.flatMap Event.keys) := by
  funext key
  have hup : ({ keymap := keymap } : Keyboard σ).down.get key = false := by
    show (Vector.replicate 16 false)[(key : Nat)] = false
    exact Vector.getElem_replicate _
  rw [keyboard_afterAll]
  exact Keyboard.get_afterAll hk hup _

/-- **A symbol that is not in the keymap moves nothing.** -/
theorem move_unmapped {keymap : List (σ × Int)} (hk : Keyboard.Proper keymap) (m : Machine)
    (events : List (Event σ)) {symbol : σ} (h : ∀ entry ∈ keymap, (symbol == entry.1) = false)
    (isDown : Bool) :
    ((start keymap m).afterAll events).keyboard.move symbol isDown
      = .ok (((start keymap m).afterAll events).keyboard, false) := by
  have hkeymap : ((start keymap m).afterAll events).keyboard.keymap = keymap := by
    rw [keyboard_afterAll]
    exact Keyboard.keymap_afterAll hk _
  have hnone : ((start keymap m).afterAll events).keyboard.key? symbol = none := by
    rw [Keyboard.key?, hkeymap, List.lookup_eq_none_iff]
    intro entry hentry
    rw [bne, h entry (List.mem_reverse.1 hentry)]
    rfl
  rw [Keyboard.move, hnone]

/-- **Key events reach the frames behind them.** After any row of events of a keyboard and
frames, the next frame latches its keypad from the keyboard and runs, and each of its steps
sees a key as down exactly if, of the events before the frame that concern the key, the
last one is a press. Events behind the snapshot reach the keyboard alone, also if they come
before the steps; a symbol without a key moves nothing; and a snapshot that is not sixteen
entries long is refused. -/
theorem keys_reach_frames {keymap : List (σ × Int)} (hk : Keyboard.Proper keymap) {m : Machine}
    {before : List (Event σ)} {t : Console σ} (ht : (start keymap m).afterAll before = t) :
    (∃ keypad m' r,
        t.machine.runFrame (some t.keyboard.snapshot) = .ok (m', r) ∧
          { t.machine with keypad := keypad }.runLatched = (m', r) ∧
          { t.machine with keypad := keypad }.Sees r.outcomes
            (fun key => Keyboard.lastPressed { keymap := keymap } key
              (before.flatMap Event.keys)) ∧
          ∀ late, t.after (.frame late) = ⟨t.keyboard.afterAll late, m'⟩) ∧
      (∀ symbol, (∀ entry ∈ keymap, (symbol == entry.1) = false) →
        t.keyboard.press symbol = .ok (t.keyboard, false) ∧
          t.keyboard.release symbol = .ok (t.keyboard, false)) ∧
      (∀ events : List (Keyboard.Event σ),
        (t.afterAll (events.map .key)).machine = t.machine) ∧
      ∀ snapshot entries, snapshot.truths? = some entries → entries.length ≠ 16 →
        t.machine.runFrameHost snapshot = .error (.badLength ⟨entries.length⟩) ∧
          t.machine.act (.frame snapshot) = t.machine := by
  have hsees := Machine.sees_runLatched { t.machine with keypad := ⟨t.keyboard.down⟩ }
  have hdown : t.keyboard.down.get = fun key =>
      Keyboard.lastPressed { keymap := keymap } key (before.flatMap Event.keys) :=
    ht ▸ down_afterAll hk m before
  rw [hdown] at hsees
  refine ⟨⟨_, _, _, t.machine.runFrame_snapshot t.keyboard, rfl, hsees, t.after_frame⟩,
    fun symbol hsymbol => ⟨?pressed, ?released⟩, t.machine_afterAll_keys,
    fun _ _ => t.machine.refuses_length⟩
  case pressed => exact ht ▸ move_unmapped hk m before hsymbol true
  case released => exact ht ▸ move_unmapped hk m before hsymbol false

/-- Two symbols for one key, and one for another. -/
def threeSymbols : List (Char × Int) := [('q', 4), ('w', 4), ('z', 0xA)]

/-- A machine whose program looks whether the key 10 is up, again and again, and sets a
register if it is. -/
def looking : Machine :=
  (Machine.new Machine.small .zeros).act (.load (.bytes
    [0x61, 0x0A, 0xE1, 0x9E, 0x62, 0x01, 0x12, 0x00]))

/-- Both symbols of a key have been pressed and one of them released, and the symbol of the
other key has been pressed. -/
def typed : Console Char :=
  (start threeSymbols looking).afterAll
    [.key (.press 'q'), .key (.press 'w'), .key (.release 'q'), .key (.press 'z')]

/-- The same, and a frame has run behind whose snapshot the symbol of the other key has been
released and a symbol without a key pressed. -/
def typedLate : Console Char :=
  (start threeSymbols looking).afterAll
    [.key (.press 'q'), .key (.press 'w'), .key (.release 'q'), .key (.press 'z'),
      .frame [.release 'z', .press 'k']]

theorem keys_reach_frames_typed :
    (∃ (p : Machine) (m' : Machine) (r : FrameReport),
        typed.machine.runFrame (some typed.keyboard.snapshot) = .ok (m', r) ∧
        p.runLatched = (m', r) ∧ p.Sees r.outcomes (fun key => key = 0xA) ∧ m'.reg 2 = 0) ∧
      (∃ (p : Machine) (m' : Machine) (r : FrameReport),
        typedLate.machine.runFrame (some typedLate.keyboard.snapshot) = .ok (m', r) ∧
        p.runLatched = (m', r) ∧ p.Sees r.outcomes (fun _ => false) ∧ m'.reg 2 = 1) ∧
      typedLate.keyboard.press 'k' = .ok (typedLate.keyboard, false) ∧
      typedLate.machine.act (.frame (.list [])) = typedLate.machine := by
  have hproper : Keyboard.Proper threeSymbols := by decide
  have hfirst : (fun key => Keyboard.lastPressed { keymap := threeSymbols } key
      [.press 'q', .press 'w', .release 'q', .press 'z']) = fun key => decide (key = 0xA) :=
    funext (by decide +kernel)
  have hsecond : (fun key => Keyboard.lastPressed { keymap := threeSymbols } key
      [.press 'q', .press 'w', .release 'q', .press 'z', .release 'z', .press 'k'])
        = fun _ => false :=
    funext (by decide +kernel)
  have hregs : (typed.after (.frame [])).machine.reg 2 = 0 ∧
      (typedLate.after (.frame [])).machine.reg 2 = 1 := by
    decide +kernel
  obtain ⟨⟨keypad, m', r, hframe, hrun, hsees, hafter⟩, -⟩ :=
    keys_reach_frames hproper (Eq.refl typed)
  obtain ⟨⟨keypad', m'', r', hframe', hrun', hsees', hafter'⟩, hunmapped, -, hrefused⟩ :=
    keys_reach_frames hproper (Eq.refl typedLate)
  rw [hafter, hafter'] at hregs
  refine ⟨⟨_, m', r, hframe, hrun, hfirst ▸ hsees, hregs.1⟩,
    ⟨_, m'', r', hframe', hrun', hsecond ▸ hsees', hregs.2⟩, (hunmapped 'k' ?_).1,
    (hrefused (.list []) [] rfl (by decide)).2⟩
  decide

end Console
end ChipEight
