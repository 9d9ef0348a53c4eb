/-
# The ranges of what is accepted

A configuration that is accepted holds settings in their ranges
(`Config.Accepted.othersInRange`), with one exception. The checks are refusals, and that of
the frame interval refuses zero or less: a NaN is neither, and passes
(`Numeral.Double.not_le_zero_iff`). So the interval of an accepted configuration is above
zero exactly if what was said of it is a number (`Session.ranges_of_accepted`): the value in
the mapping, or the frame rate given over it, which divides a thousand and is a NaN again if
it was one.
-/

import ChipEight.Proofs.OptionOverlay

namespace ChipEight

/-- The value reads as a real number that is none. -/
def Value.IsNaN (v : Value) : Prop := ∃ x, v.toReal = .ok x ∧ x.isNaN = true

@[simp] theorem Value.isNaN_float (x : Float) : (Value.float x).IsNaN ↔ x.isNaN = true := by
  simp [IsNaN, toReal]

namespace Config

/-- The settings other than the frame interval are in their ranges. -/
structure OthersInRange (c : Config) : Prop where
  instructions : ∃ n, c.setting .instructionsPerFrame = .int n ∧ 1 ≤ n
  memory : ∃ n, c.setting .memorySize = .int n ∧ 0x202 ≤ n ∧ n ≤ 0x10000
  sound : c.setting .soundOperand = .text "x" ∨ c.setting .soundOperand = .text "n"
  keyWait : c.setting .keyWait = .text "release" ∨ c.setting .keyWait = .text "press"
  scale : ∃ n, c.setting .scale = .int n ∧ 1 ≤ n
  seed : c.setting .seed = .null ∨ ∃ n, c.setting .seed = .int n

variable {c : Config}

/-- **The checks bring every setting but the interval into its range.** -/
theorem Accepted.othersInRange (h : c.Accepted) : c.OthersInRange where
  instructions := ⟨_, rfl, Int.ofNat_le.2 h.instructions⟩
  memory := ⟨_, rfl, Int.ofNat_le.2 h.memory.1, Int.ofNat_le.2 h.memory.2⟩
  sound := by
    simp only [setting, draft, Draft.setting]
    cases c.soundOperand
    · exact .inl rfl
    · exact .inr rfl
  keyWait := by
    simp only [setting, draft, Draft.setting]
    cases c.keyWait
    · exact .inl rfl
    · exact .inr rfl
  scale := ⟨_, rfl, Int.ofNat_le.2 h.scale⟩
  seed := by
    simp only [setting, draft, Draft.setting]
    cases c.seed with
    | none => exact .inl rfl
    | some n => exact .inr ⟨n, rfl⟩

/-- **An accepted interval is above zero** exactly if it is a number. -/
theorem Accepted.zero_lt_frameInterval_iff (h : c.Accepted) :
    0 < c.frameInterval ↔ c.frameInterval.isNaN = false :=
  Numeral.Double.zero_lt_iff_of_not_le h.interval

/-- The interval is a NaN exactly if the value that it was made of is one. -/
theorem isNaN_iff_of_convert {stack : Stack} {v : Value}
    (h : Field.frameInterval.convert stack v = .ok (c.setting .frameInterval)) :
    v.IsNaN ↔ c.frameInterval.isNaN = true := by
  have hreal : v.toReal = .ok c.frameInterval :=
    eq_ok_of_map (fun _ _ => Value.float.inj) h
  simp only [Value.IsNaN, hreal, Except.ok.injEq, exists_eq_left']

/-- What the mapping says of the interval decides whether the accepted one is above zero. -/
theorem Accepted.zero_lt_iff_of_convert (hc : c.Accepted) {stack : Stack} {v : Value}
    (h : Field.frameInterval.convert stack v = .ok (c.setting .frameInterval)) :
    0 < c.frameInterval ↔ ¬ v.IsNaN := by
  rw [hc.zero_lt_frameInterval_iff, isNaN_iff_of_convert h, Bool.not_eq_true]

end Config

namespace Session

open CommandLine

/-- **The interval of a run is above zero** exactly if the frame rate is a number, or what
the mapping says of the interval where no rate is given. -/
theorem zero_lt_frameInterval_of_config {host : Host} {o : Options} {c : Config}
    {entries : List (Value × Value)} (ho : o.Stored) (hc : config host o = .ok c)
    (hmapping : Config.mapping host o.config = .ok entries) :
    0 < c.frameInterval ↔ ¬ (o.fps.given?.getD (Config.valueIn entries .frameInterval)).IsNaN := by
  have haccepted := accepted_of_config hc
  obtain ⟨base, given, hbase, hgiven⟩ := exists_base_of_config hc
  have hsetting := setting_of_config ho hbase hgiven hc .frameInterval
  cases hfps : o.fps with
  | null =>
    obtain ⟨-, entries', hentries', -, hconvert⟩ := Config.load_eq_ok_iff.1 hbase
    obtain rfl := Except.ok.inj (hmapping.symm.trans hentries')
    rw [Options.flag?, hfps] at hsetting
    have hinterval := (hconvert .frameInterval).trans (congrArg _ hsetting.symm)
    exact haccepted.zero_lt_iff_of_convert hinterval
  | float rate =>
    rw [Options.flag?, hfps] at hsetting
    have hinterval : c.frameInterval = 1000 / rate := Value.float.inj hsetting
    rw [haccepted.zero_lt_frameInterval_iff, hinterval, Numeral.Double.isNaN_thousand_div]
    simp [Value.given?]
  | _ =>
    -- such a rate is refused, and no settings were given
    rw [overlay, hfps] at hgiven
    cases hgiven

/-- **What is accepted is in its ranges**, but for an interval that is no number: loaded from
any source, from the fields of a configuration, or for a run with options, it holds settings
in their ranges, and its interval is above zero exactly if what was said of it is a number. -/
theorem ranges_of_accepted (host : Host) :
    (∀ v c, Config.load host v = .ok c → c.OthersInRange
      ∧ ∃ entries, Config.mapping host v = .ok entries
        ∧ (0 < c.frameInterval ↔ ¬ (Config.valueIn entries .frameInterval).IsNaN))
    ∧ (∀ fields c, Config.loadFields host fields = .ok c → c.OthersInRange
      ∧ (0 < c.frameInterval ↔ ¬ (fields .frameInterval).IsNaN))
    ∧ ∀ args o c, parse args = .ok o → config host o = .ok c → c.OthersInRange
      ∧ ∃ entries, Config.mapping host o.config = .ok entries
        ∧ (0 < c.frameInterval
          ↔ ¬ (o.fps.given?.getD (Config.valueIn entries .frameInterval)).IsNaN) := by
  refine ⟨fun v c hload => ?_, fun fields c hload => ?_, fun args o c hparse hconfig => ?_⟩
  · obtain ⟨haccepted, entries, hmapping, -, hconvert⟩ := Config.load_eq_ok_iff.1 hload
    exact ⟨haccepted.othersInRange, entries, hmapping,
      haccepted.zero_lt_iff_of_convert (hconvert .frameInterval)⟩
  · obtain ⟨-, haccepted, hconvert⟩ := Config.loadFields_eq_ok_iff.1 hload
    exact ⟨haccepted.othersInRange, haccepted.zero_lt_iff_of_convert (hconvert .frameInterval)⟩
  · obtain ⟨base, -, hbase, -⟩ := exists_base_of_config hconfig
    obtain ⟨-, entries, hmapping, -, -⟩ := Config.load_eq_ok_iff.1 hbase
    exact ⟨(accepted_of_config hconfig).othersInRange, entries, hmapping,
      zero_lt_frameInterval_of_config (stored_of_parse hparse) hconfig hmapping⟩

/-- The defaults, loaded as nothing or field by field, and a run at fifty frames in a
second. -/
theorem ranges_of_accepted_paced :
    Config.load .bare .null = .ok {}
      ∧ Config.loadFields .bare (Config.setting {}) = .ok {}
      ∧ parse ["--fps", "50", "--seed", "0", "g"] = .ok paced
      ∧ config .bare paced
        = .ok { frameInterval := 1000 / 50, seed := some 0 }
      ∧ Config.OthersInRange {} ∧ (0 : Float) < 1000 / 60
      ∧ Config.OthersInRange { frameInterval := 1000 / 50, seed := some 0 }
      ∧ (0 : Float) < 1000 / 50 := by
  have hload := Config.load_null .bare
  have hfields := Config.loadFields_setting Config.accepted_default .bare
  obtain ⟨hsource, hkept, hrun⟩ := ranges_of_accepted .bare
  obtain ⟨hothers, -⟩ := hsource _ _ hload
  obtain ⟨-, hinterval⟩ := hkept _ _ hfields
  obtain ⟨hothers', entries, -, hinterval'⟩ := hrun _ _ _ parse_paced config_paced
  have hsixtieth : ¬ (Value.float (1000 / 60)).IsNaN := (Value.isNaN_float _).not.2 (by decide)
  have hfifty : ¬ (Value.float 50).IsNaN := (Value.isNaN_float _).not.2 (by decide)
  exact ⟨hload, hfields, parse_paced, config_paced, hothers, hinterval.2 hsixtieth, hothers',
    hinterval'.2 hfifty⟩

/-- **Not every interval that is accepted is above zero**: one that is no number is
accepted. -/
theorem interval_not_positive :
    ¬ ∀ (host : Host) (v : Value) (c : Config), Config.load host v = .ok c →
      0 < c.frameInterval := by
  intro h
  have hload : Config.load .bare
      (.map [(.text "frame_interval_ms", .float Numeral.notANumber)])
      = .ok { frameInterval := Numeral.notANumber } := by
    refine Config.load_eq_ok_iff.2 ⟨⟨by decide, by decide, by decide, by decide⟩, _, rfl, ?_, ?_⟩
    · rintro entry hmem
      obtain rfl := List.mem_singleton.1 hmem
      exact ⟨.frameInterval, rfl⟩
    · intro f
      rw [← Config.convert_setting _ _ Host.bare.stack]
      cases f <;> rfl
  exact absurd (h _ _ _ hload) (by decide)

end Session
end ChipEight
