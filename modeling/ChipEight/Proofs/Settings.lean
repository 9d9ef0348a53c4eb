/-
# Settings as values

A configuration is made of settings, and each setting is made from one value by a
conversion of its own (`Field.convert`). Once converted it is a value again
(`Config.setting`), which converts to itself (`convert_setting`).

What is accepted, and as what, is therefore a matter of one value for each setting:

| source | accepted as `c` exactly if `c` passes the checks and |
| --- | --- |
| settings (`ofOverlay_eq_ok_iff`) | each one, or its default, converts to that of `c` |
| a mapping (`ofEntries_eq_ok_iff`) | its keys are known, and the same holds of what it says |
| any source (`load_eq_ok_iff`) | it is or holds such a mapping |

So loading changes nothing that it has once accepted (`loadFields_setting`).
-/

import ChipEight.Proofs.History
import ChipEight.Proofs.Refusals

namespace ChipEight.Config

/-! ### Settings one by one -/

/-- A seed as a value. -/
def seedValue : Option Int → Value
  | none => .null
  | some n => .int n

/-- A value as this setting. -/
def Field.convert (f : Field) (stack : Stack) (v : Value) : Except ConversionError Value :=
  match f with
  | instructionsPerFrame | memorySize | scale => v.toInt.map .int
  | frameInterval => v.toReal.map .float
  | soundOperand | keyWait => (v.toName stack).map fun name => .text (Text.ofString name)
  | seed => (Draft.seedOf v).map seedValue

/-- A setting that is not yet checked. -/
def Draft.setting (d : Draft) : Field → Value
  | .instructionsPerFrame => .int d.instructionsPerFrame
  | .frameInterval => .float d.frameInterval
  | .memorySize => .int d.memorySize
  | .soundOperand => .text d.soundOperand
  | .keyWait => .text d.keyWait
  | .scale => .int d.scale
  | .seed => seedValue d.seed

/-- The settings of a configuration as they were before the checks. -/
def draft (c : Config) : Draft where
  instructionsPerFrame := c.instructionsPerFrame
  frameInterval := c.frameInterval
  memorySize := c.memorySize
  soundOperand := c.soundOperand.name
  keyWait := c.keyWait.name
  scale := c.scale
  seed := c.seed

/-- A setting of a configuration. -/
def setting (c : Config) (f : Field) : Value := c.draft.setting f

theorem Field.mistake?_eq (f : Field) (stack : Stack) (v : Value) :
    f.mistake? stack v = errorOf? (f.convert stack v) := by
  cases f <;> simp only [mistake?, convert, errorOf?_map]

/-- The names of choices are in lower case. -/
theorem map_toLower_name (operand : SoundOperand) :
    operand.name.map Char.toLower = operand.name := by
  rw [← String.toList_inj, String.toList_map]
  cases operand <;> decide

theorem map_toLower_modeName (mode : KeyWait.Mode) : mode.name.map Char.toLower = mode.name := by
  rw [← String.toList_inj, String.toList_map]
  cases mode <;> decide

/-- **A setting that was converted converts to itself.** -/
theorem convert_setting (c : Config) (f : Field) (stack : Stack) :
    f.convert stack (c.setting f) = .ok (c.setting f) := by
  cases f with
  | soundOperand =>
    simp only [setting, draft, Draft.setting, Field.convert, Value.toName, Text.shown_ofString,
      map_toLower_name]
    rfl
  | keyWait =>
    simp only [setting, draft, Draft.setting, Field.convert, Value.toName, Text.shown_ofString,
      map_toLower_modeName]
    rfl
  | seed =>
    simp only [setting, draft, Draft.setting]
    cases c.seed <;> rfl
  | _ => rfl

/-! ### Settings over the defaults -/

theorem eq_ok_of_map {ε α β : Type} {g : α → β} (hg : Function.Injective g) {r : Except ε α}
    {a : α} (h : r.map g = .ok (g a)) : r = .ok a := by
  cases r with
  | error e => cases h
  | ok b => exact congrArg _ (hg (Except.ok.inj h))

theorem ofName_injective :
    Function.Injective fun (name : String) => Value.text (.ofString name) := by
  intro a b h
  simpa using congrArg Text.toString? (Value.text.inj h)

theorem seedValue_injective : Function.Injective seedValue := by
  rintro (_ | m) (_ | n) h <;> cases h <;> rfl

/-- What is found by its name has that name, where each of the choices is found by its own. -/
theorem find?_name_eq_some_iff {α : Type} {choices : List α} {name : α → String}
    (hfound : ∀ a, choices.find? (fun b => name b = name a) = some a) {key : String} {a : α} :
    choices.find? (fun b => name b = key) = some a ↔ key = name a := by
  constructor
  · intro h
    have hname := List.find?_some h
    exact (of_decide_eq_true hname).symm
  · rintro rfl
    exact hfound a

variable {stack : Stack}

namespace Draft

/-- **Settings convert** exactly if each one does. -/
theorem ofOverlay_eq_ok_iff {o : Overlay} {d : Draft} :
    ofOverlay stack o = .ok d ↔ ∀ f : Field, f.convert stack (o.get f) = .ok (d.setting f) := by
  constructor
  · intro h f
    simp only [ofOverlay, bind, Except.bind, pure, Except.pure] at h
    repeat' split at h
    all_goals cases h
    cases f <;> simp only [Field.convert, setting, Except.map, *]
  · intro h
    have hinstructions := eq_ok_of_map (fun _ _ => Value.int.inj) (h .instructionsPerFrame)
    have hinterval := eq_ok_of_map (fun _ _ => Value.float.inj) (h .frameInterval)
    have hmemory := eq_ok_of_map (fun _ _ => Value.int.inj) (h .memorySize)
    have hoperand := eq_ok_of_map ofName_injective (h .soundOperand)
    have hwait := eq_ok_of_map ofName_injective (h .keyWait)
    have hscale := eq_ok_of_map (fun _ _ => Value.int.inj) (h .scale)
    have hseed := eq_ok_of_map seedValue_injective (h .seed)
    simp only [ofOverlay, hinstructions, hinterval, hmemory, hoperand, hwait, hscale, hseed]
    rfl

/-- The conversion of settings depends on those of their values alone. -/
theorem ofOverlay_congr {o o' : Overlay}
    (h : ∀ f : Field, f.convert stack (o.get f) = f.convert stack (o'.get f)) :
    ofOverlay stack o = ofOverlay stack o' := by
  cases hd : ofOverlay stack o' with
  | ok d =>
    rw [ofOverlay_eq_ok_iff] at hd ⊢
    exact fun f => (h f).trans (hd f)
  | error e =>
    rw [← errorOf?_eq_some_iff, errorOf?_ofOverlay] at hd ⊢
    simpa only [Field.mistake?_eq, h] using hd

theorem soundOperand?_eq_some_iff {name : String} {operand : SoundOperand} :
    soundOperand? name = some operand ↔ name = operand.name :=
  find?_name_eq_some_iff fun a => by cases a <;> decide

theorem keyWait?_eq_some_iff {name : String} {mode : KeyWait.Mode} :
    keyWait? name = some mode ↔ name = mode.name :=
  find?_name_eq_some_iff fun a => by cases a <;> decide

end Draft

/-- What the checks ask of a configuration. -/
structure Accepted (c : Config) : Prop where
  instructions : 1 ≤ c.instructionsPerFrame
  interval : ¬ c.frameInterval ≤ 0
  memory : c.MemoryInRange
  scale : 1 ≤ c.scale

/-- **The checks let a configuration through** exactly if it is as they ask, and leave its
settings as they are. -/
theorem Draft.check_eq_ok_iff {d : Draft} {c : Config} :
    d.check = .ok c ↔ c.Accepted ∧ d = c.draft := by
  constructor
  · intro h
    simp only [check, bind, Except.bind, throw, throwThe, MonadExceptOf.throw, pure,
      Except.pure] at h
    repeat' split at h
    all_goals cases h
    rename_i hi hf hm _ operand ho _ mode hk hs
    obtain ⟨instructions, interval, memory, _, _, scale, seed⟩ := d
    simp only [soundOperand?_eq_some_iff, keyWait?_eq_some_iff] at *
    subst ho hk
    refine ⟨⟨?_, hf, ?_, ?_⟩, ?_⟩
    · simp only; omega
    · simp only [MemoryInRange]; omega
    · simp only; omega
    · simp only [draft, mk.injEq, true_and, and_true]
      omega
  · rintro ⟨⟨hi, hf, ⟨hmin, hmax⟩, hs⟩, rfl⟩
    have hi' : ¬ (c.instructionsPerFrame : Int) < 1 := by omega
    have hm : ¬ ((c.memorySize : Int) < minMemory ∨ (maxMemory : Int) < c.memorySize) := by omega
    have hs' : ¬ (c.scale : Int) < 1 := by omega
    simp only [check, draft, if_neg hi', if_neg hf, if_neg hm,
      soundOperand?_eq_some_iff.2 rfl, keyWait?_eq_some_iff.2 rfl, Int.toNat_natCast]
    exact if_neg hs'

/-- **Settings over the defaults are accepted** exactly as the configuration that each of
them converts to, if that passes the checks. -/
theorem ofOverlay_eq_ok_iff {o : Overlay} {c : Config} :
    ofOverlay stack o = .ok c ↔
      c.Accepted ∧ ∀ f : Field, f.convert stack (o.get f) = .ok (c.setting f) := by
  simp only [setting, ← Draft.ofOverlay_eq_ok_iff]
  unfold ofOverlay
  cases Draft.ofOverlay stack o with
  | error e => simp
  | ok d => simp [Draft.check_eq_ok_iff]

theorem ofOverlay_congr {o o' : Overlay}
    (h : ∀ f : Field, f.convert stack (o.get f) = f.convert stack (o'.get f)) :
    ofOverlay stack o = ofOverlay stack o' := by
  unfold ofOverlay
  rw [Draft.ofOverlay_congr h]

namespace Overlay

/-- What settings say about a field. -/
def given? (o : Overlay) (f : Field) : Option Value := o.reverse.lookup f

theorem get_eq (o : Overlay) (f : Field) : o.get f = (o.given? f).getD f.default := rfl

theorem given?_append (o o' : Overlay) (f : Field) :
    given? (o ++ o') f = (o'.given? f).or (o.given? f) := by
  simp only [given?, List.reverse_append, List.lookup_append]

theorem given?_cons (g : Field) (v : Value) (o : Overlay) (f : Field) :
    given? ((g, v) :: o) f = (o.given? f).or (if f = g then some v else none) := by
  rw [← List.singleton_append, given?_append]
  by_cases h : f = g
  · simp [given?, h]
  · simp [given?, List.lookup_cons, h, beq_false_of_ne h]

/-- A setting is the one laid over the others, if there is one. -/
theorem get_append (o o' : Overlay) (f : Field) :
    get (o ++ o') f = (o'.given? f).getD (o.get f) := by
  rw [get_eq, given?_append, get_eq]
  cases o'.given? f <;> rfl

end Overlay

theorem get_toOverlay (c : Config) (f : Field) : c.toOverlay.get f = c.setting f := by
  cases f with
  | seed =>
    have hget : c.toOverlay.get .seed = match c.seed with | none => .null | some n => .int n := rfl
    rw [hget]
    change _ = seedValue c.seed
    cases c.seed <;> rfl
  | _ => rfl

/-! ### Mappings -/

/-- The value of a setting in a mapping: the last one under its key, else the default. -/
def valueIn (entries : List (Value × Value)) (f : Field) : Value :=
  (entries.reverse.lookup (.text f.key)).getD f.default

/-- Every key of a mapping is that of a setting. -/
def Known (entries : List (Value × Value)) : Prop :=
  ∀ entry ∈ entries, ∃ f : Field, entry.1 = .text f.key

theorem text_beq_iff {t : Text} {v : Value} : (Value.text t == v) = true ↔ v = .text t := by
  cases v with
  | text t' =>
    change (t == t') = true ↔ _
    rw [beq_iff_eq, Value.text.injEq, eq_comm]
  | _ => exact iff_of_false Bool.false_ne_true nofun

theorem beq_text_iff {t : Text} {v : Value} : (v == Value.text t) = true ↔ v = .text t := by
  cases v with
  | text t' =>
    change (t' == t) = true ↔ _
    rw [beq_iff_eq, Value.text.injEq]
  | float x =>
    -- a number is compared with numbers alone, and a text is none
    simp [BEq.beq, Value.sameSymbol, Value.ratio?]
  | _ => exact iff_of_false Bool.false_ne_true nofun

namespace Field

theorem ofKey?_eq_some_iff {key : String} {f : Field} : ofKey? key = some f ↔ key = f.key :=
  find?_name_eq_some_iff ofKey?_key

theorem ofValue?_eq_some_iff {v : Value} {f : Field} : ofValue? v = some f ↔ v = .text f.key := by
  constructor
  · intro h
    cases v with
    | text t =>
      obtain ⟨key, hkey, hf⟩ := Option.bind_eq_some_iff.1 h
      rw [Text.eq_ofString_of_toString? hkey, ofKey?_eq_some_iff.1 hf]
    | _ => cases h
  · rintro rfl
    simp [ofValue?]

theorem key_injective {f g : Field} (h : f.key = g.key) : f = g := by
  rw [← Option.some.injEq, ← ofKey?_key f, ← ofKey?_key g, h]

/-- Keys are told apart as the settings are. -/
@[simp] theorem key_beq_key (f g : Field) : (Value.text f.key == Value.text g.key) = (f == g) := by
  rw [Bool.eq_iff_iff, text_beq_iff, beq_iff_eq]
  exact ⟨fun h => key_injective (ofName_injective h.symm), fun h => h ▸ rfl⟩

end Field

/-- The setting that an entry is, if it is one. -/
def settingOf? (entry : Value × Value) : Option (Field × Value) :=
  (Field.ofValue? entry.1).map fun f => (f, entry.2)

/-- The entries of settings hold under each key what all entries hold. -/
theorem lookup_filterMap_settingOf? (entries : List (Value × Value)) (f : Field) :
    (entries.filterMap settingOf?).lookup f = entries.lookup (.text f.key) := by
  induction entries with
  | nil => rfl
  | cons entry entries ih =>
    obtain ⟨key, v⟩ := entry
    cases hkey : Field.ofValue? key with
    | none =>
      have hmiss : (Value.text f.key == key) = false := Bool.eq_false_iff.2 fun heq => by
        rw [Field.ofValue?_eq_some_iff.2 (text_beq_iff.1 heq)] at hkey
        cases hkey
      simpa only [List.filterMap_cons, settingOf?, hkey, Option.map_none, List.lookup_cons, hmiss]
        using ih
    | some g =>
      obtain rfl := Field.ofValue?_eq_some_iff.1 hkey
      simp only [List.filterMap_cons, settingOf?, hkey, Option.map_some, List.lookup_cons,
        Field.key_beq_key, ← ih]

theorem unknownKeys_eq_nil_iff (entries : List (Value × Value)) :
    unknownKeys entries = [] ↔ Known entries := by
  simp only [unknownKeys, List.filter_eq_nil_iff, List.forall_mem_map, Option.isNone_iff_eq_none,
    ← ne_eq, Option.ne_none_iff_exists', Field.ofValue?_eq_some_iff, Known]

/-- **The settings of a mapping** whose keys are all known. -/
theorem exists_ofEntries {entries : List (Value × Value)} (h : Known entries) :
    ∃ o, Overlay.ofEntries entries = .ok o ∧ ∀ f, o.get f = valueIn entries f := by
  refine ⟨entries.filterMap settingOf?, ?_, fun f => ?_⟩
  · rw [ofEntries_eq, (unknownKeys_eq_nil_iff entries).2 h]
    rfl
  · rw [Overlay.get_eq, Overlay.given?, ← List.filterMap_reverse, lookup_filterMap_settingOf?]
    rfl

theorem known_of_ofEntries {entries : List (Value × Value)} {o : Overlay}
    (h : Overlay.ofEntries entries = .ok o) : Known entries := by
  rw [ofEntries_eq] at h
  split at h
  · rename_i hempty
    exact (unknownKeys_eq_nil_iff entries).1 (List.isEmpty_iff.1 hempty)
  · split at h <;> cases h

/-- A mapping whose keys are all known is accepted and refused as settings that convert to
the same. -/
theorem ofEntries_eq_ofOverlay {entries : List (Value × Value)} {o : Overlay} (hk : Known entries)
    (h : ∀ f : Field, f.convert stack (valueIn entries f) = f.convert stack (o.get f)) :
    ofEntries stack entries = ofOverlay stack o := by
  obtain ⟨o', ho', hget⟩ := exists_ofEntries hk
  calc ofEntries stack entries
    _ = ofOverlay stack o' := by simp only [ofEntries, ho']; rfl
    _ = ofOverlay stack o := ofOverlay_congr fun f => by rw [hget, h]

/-- **A mapping is accepted** exactly if its keys are known and what it says of each setting
converts to that of a configuration that passes the checks. -/
theorem ofEntries_eq_ok_iff {entries : List (Value × Value)} {c : Config} :
    ofEntries stack entries = .ok c ↔ Known entries ∧ c.Accepted
      ∧ ∀ f : Field, f.convert stack (valueIn entries f) = .ok (c.setting f) := by
  by_cases hk : Known entries
  · obtain ⟨o, ho, hget⟩ := exists_ofEntries hk
    simp only [ofEntries, ho, ← hget, ← ofOverlay_eq_ok_iff, hk, true_and]
    rfl
  · refine iff_of_false ?_ fun h => hk h.1
    unfold ofEntries
    cases ho : Overlay.ofEntries entries with
    | error e => nofun
    | ok o => exact absurd (known_of_ofEntries ho) hk

/-! ### Sources -/

/-- The mapping that a source is, or holds. -/
def mapping (host : Host) : Value → Except Error (List (Value × Value))
  | .null => .ok []
  | .map entries => .ok entries
  | .text path => readFile host path
  | _ => .error .unsupported

/-- Loading takes the mapping of a source, whatever the source is. -/
theorem load_eq (host : Host) (v : Value) :
    load host v = mapping host v >>= ofEntries host.stack := by
  cases v <;> rfl

variable {host : Host}

/-- **A source is accepted** exactly if the mapping that it holds is. -/
theorem load_eq_ok_iff {v : Value} {c : Config} :
    load host v = .ok c ↔ c.Accepted ∧ ∃ entries, mapping host v = .ok entries ∧ Known entries
      ∧ ∀ f : Field, f.convert host.stack (valueIn entries f) = .ok (c.setting f) := by
  rw [load_eq]
  cases mapping host v with
  | error e => simp [bind, Except.bind]
  | ok entries =>
    change ofEntries host.stack entries = .ok c ↔ _
    simp [ofEntries_eq_ok_iff, and_left_comm]

@[simp] theorem valueIn_toEntries (fields : Field → Value) (f : Field) :
    valueIn (toEntries fields) f = fields f := by
  cases f <;> rfl

theorem known_toEntries (fields : Field → Value) : Known (toEntries fields) := by
  intro entry hmem
  obtain ⟨f, -, rfl⟩ := List.mem_map.1 hmem
  exact ⟨f, rfl⟩

/-- **The fields of a configuration are accepted** exactly if they can be copied and each
converts to that of a configuration that passes the checks. -/
theorem loadFields_eq_ok_iff {fields : Field → Value} {c : Config} :
    loadFields host fields = .ok c ↔ (∀ f, host.stack.canCopy (fields f) = true) ∧ c.Accepted
      ∧ ∀ f : Field, f.convert host.stack (fields f) = .ok (c.setting f) := by
  have hall : (Field.all.all fun f => host.stack.canCopy (fields f)) = true
      ↔ ∀ f, host.stack.canCopy (fields f) = true := by
    rw [List.all_eq_true]
    exact ⟨fun h f => h f f.mem_all, fun h f _ => h f⟩
  unfold loadFields
  rw [← hall]
  split
  next hcopy => simp [ofEntries_eq_ok_iff, known_toEntries, hcopy]
  next hcopy => simp [hcopy]

/-- A value that holds no other is copied by the program itself. -/
theorem canCopy_of_parts {stack : Stack} {v : Value} (h : v.parts 0 = [(0, v)]) :
    stack.canCopy v = true := by
  simp [Stack.canCopy, h, stack.copies_zero]

theorem parts_setting (c : Config) (f : Field) : (c.setting f).parts 0 = [(0, c.setting f)] := by
  cases f with
  | seed =>
    simp only [setting, draft, Draft.setting]
    cases c.seed <;> rfl
  | _ => rfl

/-- **What passes the checks is accepted as it is**, as a mapping and as fields. -/
theorem load_setting {c : Config} (h : c.Accepted) (host : Host) :
    load host (.map (toEntries c.setting)) = .ok c := by
  refine load_eq_ok_iff.2 ⟨h, _, rfl, known_toEntries c.setting, fun f => ?_⟩
  rw [valueIn_toEntries, convert_setting]

theorem loadFields_setting {c : Config} (h : c.Accepted) (host : Host) :
    loadFields host c.setting = .ok c :=
  loadFields_eq_ok_iff.2 ⟨fun f => canCopy_of_parts (parts_setting c f), h,
    fun f => c.convert_setting f host.stack⟩

/-- **The defaults pass their own checks.** -/
theorem accepted_default : Accepted {} := ⟨by decide, by decide, by decide, by decide⟩

/-- Where nothing is said, the defaults are what is loaded. -/
theorem load_null (host : Host) : load host .null = .ok {} := by
  change ofOverlay host.stack [] = .ok {}
  refine ofOverlay_eq_ok_iff.2 ⟨accepted_default, fun f => ?_⟩
  have hget : Overlay.get [] f = setting {} f := by cases f <;> rfl
  rw [hget, convert_setting]

end ChipEight.Config
