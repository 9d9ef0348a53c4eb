/-
# What a wait for a key answers

A wait is polled with one keypad after another and answers now and then
(`KeyWait.answers`). The answers cut the polls into spans, each from behind an answer to the
next (`KeyWait.span`), and a span given for itself: the wait observes the highest key at
the first poll that shows one down (`KeyWait.ObservedAt`) and answers it there or, if it
awaits the release, at the first poll behind that shows it up (`KeyWait.DueAt`).

Between two polls a wait knows as much as that takes (`KeyWait.Knows`): as long as nothing
is observed no key has been down in the span, and an observed key has been down ever since.
A poll keeps it so (`KeyWait.Knows.poll`), and with it answers what is due and nothing else
(`KeyWait.Knows.answer_iff`).
-/

import ChipEight.KeyWait
import Mathlib.Order.Bounds.Basic
import Mathlib.Order.Fin.Basic

namespace ChipEight.KeyWait

variable {name : String} {w : KeyWait} {pad : Keypad} {pads : List Keypad}
  {given : List (Option (Fin 16))} {i j : Nat} {key : Fin 16}

/-- The wait after a row of polls. -/
def afterAll (w : KeyWait) (pads : List Keypad) : KeyWait :=
  pads.foldl (fun w pad => (w.poll pad).1) w

/-- The answers to a row of polls. -/
def answers (w : KeyWait) : List Keypad → List (Option (Fin 16))
  | [] => []
  | pad :: pads => (w.poll pad).2 :: (w.poll pad).1.answers pads

/-- The wait is about to begin: it is fresh, with the mode of a name, or one of that mode
which has been reset. -/
inductive Ready (name : String) : KeyWait → Prop
  | fresh : Ready name { mode := .ofName name }
  | reset {w : KeyWait} (h : w.mode = .ofName name) : Ready name w.reset

/-- A poll shows the key down. -/
def DownAt (pads : List Keypad) (i : Nat) (key : Fin 16) : Prop :=
  ∃ pad, pads[i]? = some pad ∧ pad.isPressed (key : Nat) = true

/-- The polls up to the poll `j` that are behind the last answer before it. -/
def span (given : List (Option (Fin 16))) (j : Nat) : Set Nat :=
  {i | i ≤ j ∧ ∀ l, i ≤ l → l < j → given[l]? = some none}

/-- Of the span that ends with the poll `j`, the poll `i` is the first with a key down, and
the highest down there is `key`. -/
structure ObservedAt (pads : List Keypad) (given : List (Option (Fin 16))) (i j : Nat)
    (key : Fin 16) : Prop where
  first : IsLeast {i | i ∈ span given j ∧ ∃ key, DownAt pads i key} i
  highest : IsGreatest {key | DownAt pads i key} key

/-- A key that the poll `i` observes is to be answered by the poll `j`: with the mode
`release` the first behind that shows it up, with any other the same. -/
def DueAt (name : String) (pads : List Keypad) (key : Fin 16) (i j : Nat) : Prop :=
  if name = "release" then IsLeast {j | i < j ∧ ¬ DownAt pads j key} j else j = i

theorem Ready.eq (h : Ready name w) : w = { mode := .ofName name } := by
  cases h with
  | fresh => rfl
  | reset h => rw [KeyWait.reset, h]

theorem ofName_eq_onRelease_iff : Mode.ofName name = .onRelease ↔ name = "release" := by
  rw [Mode.ofName]
  split <;> simp_all

@[simp] theorem length_answers (w : KeyWait) (pads : List Keypad) :
    (w.answers pads).length = pads.length := by
  induction pads generalizing w with
  | nil => rfl
  | cons pad pads ih => rw [answers, List.length_cons, ih, List.length_cons]

/-- The wait before each poll says what it answers. -/
theorem getElem?_answers (w : KeyWait) (h : pads[j]? = some pad) :
    (w.answers pads)[j]? = some ((w.afterAll (pads.take j)).poll pad).2 := by
  induction pads generalizing w j with
  | nil => cases h
  | cons pad' pads ih =>
    cases j with
    | zero =>
      obtain rfl := Option.some.inj h
      rfl
    | succ j => exact ih (w.poll pad').1 h

theorem afterAll_take_succ (w : KeyWait) (h : pads[j]? = some pad) :
    w.afterAll (pads.take (j + 1)) = ((w.afterAll (pads.take j)).poll pad).1 := by
  rw [List.take_add_one, h, afterAll, List.foldl_append]
  rfl

theorem downAt_iff (h : pads[j]? = some pad) :
    DownAt pads j key ↔ pad.isPressed (key : Nat) = true := by
  simp [DownAt, h]

theorem self_mem_span (given : List (Option (Fin 16))) (j : Nat) : j ∈ span given j :=
  ⟨le_rfl, fun _ hl hlt => absurd hlt (Nat.not_lt.2 hl)⟩

/-- Without an answer a span goes on. -/
theorem mem_span_succ (h : given[j]? = some none) (hi : i ≤ j) :
    i ∈ span given (j + 1) ↔ i ∈ span given j := by
  constructor
  · rintro ⟨-, hnone⟩
    exact ⟨hi, fun l hl hlt => hnone l hl (Nat.lt_succ_of_lt hlt)⟩
  · rintro ⟨-, hnone⟩
    refine ⟨Nat.le_succ_of_le hi, fun l hl hlt => ?_⟩
    obtain hlt | rfl := Nat.lt_succ_iff_lt_or_eq.1 hlt
    · exact hnone l hl hlt
    · exact h

/-- Behind an answer begins a new span. -/
theorem not_mem_span_succ (h : given[j]? = some (some key)) (hi : i ≤ j) :
    i ∉ span given (j + 1) := by
  rintro ⟨-, hnone⟩
  cases h.symm.trans (hnone j hi (Nat.lt_succ_self j))

namespace ObservedAt

theorem mem (h : ObservedAt pads given i j key) : i ∈ span given j := h.first.1.1

/-- **A span observes one key at most.** -/
theorem unique {i' : Nat} {key' : Fin 16} (h : ObservedAt pads given i j key)
    (h' : ObservedAt pads given i' j key') : i' = i ∧ key' = key := by
  obtain rfl := h'.first.unique h.first
  exact ⟨rfl, h'.highest.unique h.highest⟩

/-- Without an answer a span has still observed its key. -/
theorem succ (h : ObservedAt pads given i j key) (hnone : given[j]? = some none) :
    ObservedAt pads given i (j + 1) key where
  first := by
    refine ⟨⟨(mem_span_succ hnone h.mem.1).2 h.mem, h.first.1.2⟩, ?_⟩
    rintro i' ⟨hspan, hdown⟩
    by_cases hi' : i' ≤ j
    · exact h.first.2 ⟨(mem_span_succ hnone hi').1 hspan, hdown⟩
    · exact h.mem.1.trans (Nat.le_of_not_le hi')
  highest := h.highest

end ObservedAt

/-- No key has been down in the span before the poll `j`. -/
def Quiet (pads : List Keypad) (given : List (Option (Fin 16))) (j : Nat) : Prop :=
  ∀ i ∈ span given j, i < j → ∀ key, ¬ DownAt pads i key

/-- The span has observed the key before the poll `j`, and since then it has been down. -/
def Holds (pads : List Keypad) (given : List (Option (Fin 16))) (j : Nat) (key : Fin 16) :
    Prop :=
  ∃ i < j, ObservedAt pads given i j key ∧ ∀ l, i < l → l < j → DownAt pads l key

/-- What a wait knows before the poll `j` of the polls before. -/
def Knows (pads : List Keypad) (given : List (Option (Fin 16))) (j : Nat) (w : KeyWait) : Prop :=
  match w.phase with
  | .idle | .resolved _ => Quiet pads given j
  | .observed key => w.mode = .onRelease ∧ Holds pads given j key

/-- In a span that has been quiet a key can only be observed by the last poll. -/
theorem Quiet.eq_of_observedAt (h : Quiet pads given j)
    (hobs : ObservedAt pads given i j key) : i = j := by
  obtain ⟨key', hdown⟩ := hobs.first.1.2
  by_contra hne
  exact h i hobs.mem (Nat.lt_of_le_of_ne hobs.mem.1 hne) key' hdown

theorem quiet_succ_of_answer (h : given[j]? = some (some key)) : Quiet pads given (j + 1) :=
  fun _ hi hlt => absurd hi (not_mem_span_succ h (Nat.le_of_lt_succ hlt))

theorem Quiet.succ (h : Quiet pads given j) (hnone : given[j]? = some none)
    (hup : ∀ key, ¬ DownAt pads j key) : Quiet pads given (j + 1) := by
  intro i hi hlt
  obtain hlt | rfl := Nat.lt_succ_iff_lt_or_eq.1 hlt
  · exact h i ((mem_span_succ hnone hlt.le).1 hi) hlt
  · exact hup

/-- A span that has been quiet observes the highest key that is down. -/
theorem Quiet.observedAt (h : Quiet pads given j) (hj : pads[j]? = some pad)
    (hhighest : pad.highest? = some key) : ObservedAt pads given j j key := by
  obtain ⟨hdown, hmax⟩ := Keypad.highest?_eq_some_iff.1 hhighest
  have hgreatest : IsGreatest {key | DownAt pads j key} key := by
    refine ⟨(downAt_iff hj).2 (pad.isPressed_key key ▸ hdown), fun key' hkey' => hmax key' ?_⟩
    exact pad.isPressed_key key' ▸ (downAt_iff hj).1 hkey'
  refine ⟨⟨⟨self_mem_span given j, key, hgreatest.1⟩, ?_⟩, hgreatest⟩
  rintro i ⟨hi, key', hkey'⟩
  by_contra hlt
  exact h i hi (Nat.lt_of_not_le hlt) key' hkey'

theorem Holds.succ (h : Holds pads given j key) (hnone : given[j]? = some none)
    (hdown : DownAt pads j key) : Holds pads given (j + 1) key := by
  obtain ⟨i, hi, hobs, hheld⟩ := h
  refine ⟨i, Nat.lt_succ_of_lt hi, hobs.succ hnone, fun l hl hlt => ?_⟩
  obtain hlt | rfl := Nat.lt_succ_iff_lt_or_eq.1 hlt
  · exact hheld l hl hlt
  · exact hdown

theorem Knows.quiet (h : Knows pads given j w) (hphase : ∀ key, w.phase ≠ .observed key) :
    Quiet pads given j := by
  unfold Knows at h
  split at h
  · exact h
  · exact h
  next key hk => exact absurd hk (hphase key)

theorem Knows.holds (h : Knows pads given j w) (hphase : w.phase = .observed key) :
    Holds pads given j key := by
  simp only [Knows, hphase] at h
  exact h.2

theorem not_downAt_of_highest? (hj : pads[j]? = some pad) (h : pad.highest? = none) :
    ¬ DownAt pads j key := by
  rw [downAt_iff hj, pad.isPressed_key, Keypad.highest?_eq_none_iff.1 h key]
  exact Bool.false_ne_true

/-- **A poll adds to what a wait knows** of the polls before, if its answer is the one given. -/
theorem Knows.poll (h : Knows pads given j w) (hj : pads[j]? = some pad) :
    given[j]? = some (w.poll pad).2 → Knows pads given (j + 1) (w.poll pad).1 := by
  refine w.poll_cases pad ?rests ?observes ?answers ?holds ?settles
  case rests =>
    intro hphase hk hnone
    exact (h.quiet hphase).succ hnone fun _ => not_downAt_of_highest? hj hk
  case observes =>
    intro key hphase hk hmode hnone
    have hobs := (h.quiet hphase).observedAt hj hk
    exact ⟨hmode, j, Nat.lt_succ_self j, hobs.succ hnone, fun l hl hlt => by omega⟩
  case answers => exact fun _ _ _ _ hsome => quiet_succ_of_answer hsome
  case holds =>
    intro key hphase hmode hdown hnone
    simp only [Knows, hphase]
    exact ⟨hmode, (h.holds hphase).succ hnone ((downAt_iff hj).2 hdown)⟩
  case settles => exact fun _ _ _ hsome => quiet_succ_of_answer hsome

/-- **A poll answers what is due**, and nothing else. -/
theorem Knows.answer_iff (h : Knows pads given j w) (hmode : w.mode = .ofName name)
    (hj : pads[j]? = some pad) :
    (w.poll pad).2 = some key ↔ ∃ i, ObservedAt pads given i j key ∧ DueAt name pads key i j := by
  have hrelease : w.mode = .onRelease ↔ name = "release" := hmode ▸ ofName_eq_onRelease_iff
  refine w.poll_cases pad ?rests ?observes ?answers ?holds ?settles
  case rests =>
    intro hphase hk
    refine ⟨nofun, ?_⟩
    rintro ⟨i, hobs, -⟩
    obtain rfl := (h.quiet hphase).eq_of_observedAt hobs
    exact absurd hobs.highest.1 (not_downAt_of_highest? hj hk)
  case observes =>
    intro key' hphase hk hm
    refine ⟨nofun, ?_⟩
    rintro ⟨i, hobs, hdue⟩
    obtain rfl := (h.quiet hphase).eq_of_observedAt hobs
    rw [DueAt, if_pos (hrelease.1 hm)] at hdue
    exact absurd hdue.1.1 (Nat.lt_irrefl i)
  case answers =>
    intro key' hphase hk hm
    have hobs := (h.quiet hphase).observedAt hj hk
    have hname : name ≠ "release" := fun hname => by cases hm.symm.trans (hrelease.2 hname)
    constructor
    · intro hsome
      obtain rfl := Option.some.inj hsome
      exact ⟨j, hobs, by rw [DueAt, if_neg hname]⟩
    · rintro ⟨i, hobs', -⟩
      rw [(hobs.unique hobs').2]
  case holds =>
    intro key' hphase hm hdown
    refine ⟨nofun, ?_⟩
    rintro ⟨i, hobs, hdue⟩
    obtain ⟨i', -, hobs', -⟩ := h.holds hphase
    obtain ⟨-, rfl⟩ := hobs'.unique hobs
    rw [DueAt, if_pos (hrelease.1 hm)] at hdue
    exact absurd ((downAt_iff hj).2 hdown) hdue.1.2
  case settles =>
    intro key' hphase hup
    obtain ⟨i, hi, hobs, hheld⟩ := h.holds hphase
    have hm : w.mode = .onRelease := by
      simp only [Knows, hphase] at h
      exact h.1
    have hdue : DueAt name pads key' i j := by
      rw [DueAt, if_pos (hrelease.1 hm)]
      refine ⟨⟨hi, fun hdown => ?_⟩, fun l hl => ?_⟩
      · have hdown' := (downAt_iff hj).1 hdown
        rw [hup hm] at hdown'
        cases hdown'
      · by_contra hlt
        exact hl.2 (hheld l hl.1 (Nat.lt_of_not_le hlt))
    constructor
    · intro hsome
      obtain rfl := Option.some.inj hsome
      exact ⟨i, hobs, hdue⟩
    · rintro ⟨i', hobs', -⟩
      rw [(hobs.unique hobs').2]

/-- **A wait knows of all polls before**, whatever the polls are. -/
theorem Ready.knows (hw : Ready name w) (pads : List Keypad) :
    ∀ j ≤ pads.length, Knows pads (w.answers pads) j (w.afterAll (pads.take j)) ∧
      (w.afterAll (pads.take j)).mode = .ofName name := by
  intro j hj
  induction j with
  | zero =>
    rw [hw.eq]
    exact ⟨fun _ _ hi => absurd hi (Nat.not_lt_zero _), rfl⟩
  | succ j ih =>
    obtain ⟨hknows, hmode⟩ := ih (Nat.le_of_succ_le hj)
    have hpad : pads[j]? = some pads[j] := List.getElem?_eq_getElem hj
    rw [w.afterAll_take_succ hpad, mode_poll]
    exact ⟨hknows.poll hpad (w.getElem?_answers hpad), hmode⟩

/-- **A wait answers the presses that it promises.** A wait that is fresh or reset answers
every poll with a key or with none, and with a key exactly if it is due: at the first poll
behind the previous answer that shows a key down, this was the highest, and since then, with
the mode `release`, the poll is the first that shows it up; with any other mode it is that
same poll. -/
theorem answers_iff_due (hw : Ready name w) (pads : List Keypad) :
    (w.answers pads).length = pads.length ∧
      ∀ j < pads.length,
        (∀ key, (w.answers pads)[j]? = some (some key) ↔
          ∃ i, ObservedAt pads (w.answers pads) i j key ∧ DueAt name pads key i j) ∧
        ((w.answers pads)[j]? = some none ↔
          ¬ ∃ key i, ObservedAt pads (w.answers pads) i j key ∧ DueAt name pads key i j) := by
  refine ⟨length_answers w pads, fun j hj => ?_⟩
  obtain ⟨hknows, hmode⟩ := hw.knows pads j hj.le
  have hpad : pads[j]? = some pads[j] := List.getElem?_eq_getElem hj
  have hsome (key : Fin 16) : (w.answers pads)[j]? = some (some key) ↔
      ∃ i, ObservedAt pads (w.answers pads) i j key ∧ DueAt name pads key i j := by
    rw [w.getElem?_answers hpad, Option.some_inj]
    exact hknows.answer_iff hmode hpad
  refine ⟨hsome, ?_⟩
  simp only [← hsome, w.getElem?_answers hpad, Option.some_inj]
  rw [← Option.ne_none_iff_exists', not_not]

/-- A keypad with some keys down. -/
def withDown (keys : List Nat) : Keypad := ⟨.ofFn fun key => key.val ∈ keys⟩

/-- Keys come and go while the highest of the first ones is held, and again behind its
answer. -/
def fumbled : List Keypad :=
  [withDown [], withDown [2, 9], withDown [9, 12], withDown [12], withDown [12, 3], withDown [3]]

/-- A wait that had observed a key when it was reset. -/
def onceReset : KeyWait := reset { mode := .onRelease, phase := .observed (.last 15) }

theorem answers_iff_due_fumbled :
    onceReset.answers fumbled = [none, none, none, some 9, none, some 12] ∧
      (∃ i, ObservedAt fumbled (onceReset.answers fumbled) i 3 9 ∧
        DueAt "release" fumbled 9 i 3) ∧
      (¬ ∃ key i, ObservedAt fumbled (onceReset.answers fumbled) i 4 key ∧
        DueAt "release" fumbled key i 4) ∧
      ∃ i, ObservedAt fumbled (answers { mode := .ofName "press" } fumbled) i 5 3 ∧
        DueAt "press" fumbled 3 i 5 := by
  have hreset : onceReset.answers fumbled = [none, none, none, some 9, none, some 12] := by
    decide +kernel
  have hfresh : answers { mode := .ofName "press" } fumbled
      = [none, some 9, some 12, some 12, some 12, some 3] := by
    decide +kernel
  have hready : Ready "release" onceReset := .reset rfl
  have hrelease := (answers_iff_due hready fumbled).2
  have hpress := (answers_iff_due (.fresh : Ready "press" _) fumbled).2
  refine ⟨hreset, ((hrelease 3 (by decide)).1 9).1 ?_, (hrelease 4 (by decide)).2.1 ?_,
    ((hpress 5 (by decide)).1 3).1 ?_⟩
  · rw [hreset]
    rfl
  · rw [hreset]
    rfl
  · rw [hfresh]
    rfl

end ChipEight.KeyWait
