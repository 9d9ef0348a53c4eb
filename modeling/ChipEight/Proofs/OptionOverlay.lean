/-
# Options over a file

A run loads the configuration of its file, makes settings of it again, lays those of the
options over them and loads them a second time. That is one overlay
(`Session.config_is_one_overlay`): the mapping of the file, with the options written over
it, loaded once. Nothing of the file is lost or changed on the way, for what was once
converted converts to itself (`Config.convert_setting`), and a mapping written over holds
what was written, else what it held before (`Config.valueIn_writeOver`).
-/

import ChipEight.Proofs.DoubleOrder
import ChipEight.Proofs.OptionValues
import ChipEight.Proofs.Settings
import ChipEight.Session

namespace ChipEight

namespace Config

/-! ### Writing over a mapping -/

/-- The entries with the value given for a setting written over them. -/
def writeField (given : Field → Option Value) (entries : List (Value × Value)) (f : Field) :
    List (Value × Value) :=
  match given f with
  | none => entries
  | some v => Value.putEntry entries (.text f.key) v

/-- The entries with every value given for a setting written over them. -/
def writeOver (given : Field → Option Value) (entries : List (Value × Value)) :
    List (Value × Value) :=
  Field.all.foldl (writeField given) entries

section

variable {entries : List (Value × Value)} {f g : Field} {v : Value}

/-- Replacing the value of one key leaves the other keys alone. -/
theorem lookup_replace (entries : List (Value × Value)) (f g : Field) (v : Value) :
    (entries.map fun (known, old) => (known, if known == .text g.key then v else old)).lookup
        (.text f.key)
      = if f = g then (entries.lookup (.text g.key)).map fun _ => v
        else entries.lookup (.text f.key) := by
  induction entries with
  | nil => simp
  | cons entry entries ih =>
    obtain ⟨known, old⟩ := entry
    simp only [List.map_cons, List.lookup_cons]
    by_cases hknown : known = .text f.key
    · subst hknown
      by_cases hfg : f = g
      · subst hfg
        simp
      · simp [hfg]
    · have hmiss : (Value.text f.key == known) = false :=
        Bool.eq_false_iff.2 fun heq => hknown (text_beq_iff.1 heq)
      simp only [hmiss, ih]
      split_ifs with hfg
      · subst hfg
        rw [hmiss]
      · rfl

theorem isSome_lookup_eq (entries : List (Value × Value)) (g : Field) :
    (entries.lookup (.text g.key)).isSome = entries.any fun (known, _) => known == .text g.key := by
  induction entries with
  | nil => rfl
  | cons entry entries ih =>
    obtain ⟨known, old⟩ := entry
    have hsame : (known == Value.text g.key) = (Value.text g.key == known) := by
      rw [Bool.eq_iff_iff, beq_text_iff, text_beq_iff]
    simp only [List.lookup_cons, List.any_cons, hsame, ← ih]
    cases Value.text g.key == known <;> rfl

/-- **What is put under a key is found there**, and the other keys keep what they hold. -/
theorem valueIn_putEntry :
    valueIn (Value.putEntry entries (.text g.key) v) f
      = if f = g then v else valueIn entries f := by
  have hsome : (entries.reverse.lookup (.text g.key)).isSome
      = entries.any fun (known, _) => known == .text g.key := by
    rw [isSome_lookup_eq, List.any_reverse]
  unfold valueIn Value.putEntry
  split
  · rename_i hany
    rw [hany] at hsome
    obtain ⟨old, hold⟩ := Option.isSome_iff_exists.1 hsome
    rw [← List.map_reverse, lookup_replace, hold]
    split <;> rfl
  · rw [List.reverse_append, List.reverse_singleton, List.singleton_append, List.lookup_cons,
      Field.key_beq_key]
    by_cases hfg : f = g
    · simp [hfg]
    · simp [hfg, beq_false_of_ne hfg]

theorem known_putEntry (h : Known entries) : Known (Value.putEntry entries (.text g.key) v) := by
  unfold Value.putEntry
  split
  · intro entry hmem
    obtain ⟨entry, hentry, rfl⟩ := List.mem_map.1 hmem
    exact h entry hentry
  · intro entry hmem
    obtain hmem | hmem := List.mem_append.1 hmem
    · exact h entry hmem
    · obtain rfl := List.mem_singleton.1 hmem
      exact ⟨g, rfl⟩

theorem valueIn_writeField (given : Field → Option Value) :
    valueIn (writeField given entries g) f
      = if f = g then (given f).getD (valueIn entries f) else valueIn entries f := by
  unfold writeField
  by_cases hfg : f = g
  · subst hfg
    cases given f with
    | none => simp
    | some v => simp [valueIn_putEntry]
  · cases given g with
    | none => simp [hfg]
    | some v => simp [valueIn_putEntry, hfg]

theorem known_writeField (h : Known entries) (given : Field → Option Value) (g : Field) :
    Known (writeField given entries g) := by
  unfold writeField
  cases given g with
  | none => exact h
  | some v => exact known_putEntry h

end

/-- Writing settings one after another leaves what was given for each of them. -/
theorem valueIn_foldl_writeField (given : Field → Option Value) (fs : List Field)
    (entries : List (Value × Value)) (f : Field) :
    valueIn (fs.foldl (writeField given) entries) f
      = if f ∈ fs then (given f).getD (valueIn entries f) else valueIn entries f := by
  induction fs generalizing entries with
  | nil => simp
  | cons g fs ih =>
    rw [List.foldl_cons, ih, valueIn_writeField]
    cases given f with
    | none => simp
    | some v => by_cases hmem : f ∈ fs <;> simp [hmem]

/-- **A mapping written over** holds what was written, else what it held before. -/
theorem valueIn_writeOver (given : Field → Option Value) (entries : List (Value × Value))
    (f : Field) : valueIn (writeOver given entries) f = (given f).getD (valueIn entries f) := by
  rw [writeOver, valueIn_foldl_writeField, if_pos f.mem_all]

theorem known_writeOver {entries : List (Value × Value)} (h : Known entries)
    (given : Field → Option Value) : Known (writeOver given entries) := by
  have hfold (fs : List Field) : Known (fs.foldl (writeField given) entries) := by
    induction fs generalizing entries with
    | nil => exact h
    | cons g fs ih => exact ih (known_writeField h given g)
  exact hfold Field.all

end Config

open CommandLine

/-! ### The settings that options give -/

/-- A value that was given; a null was not. -/
def Value.given? : Value → Option Value
  | .null => none
  | v => some v

/-- The value that options give for a setting. A frame rate gives the interval. -/
def CommandLine.Options.flag? (o : Options) : Config.Field → Option Value
  | .instructionsPerFrame => o.speed.given?
  | .frameInterval =>
    match o.fps with
    | .float rate => some (.float (1000 / rate))
    | _ => none
  | .memorySize => none
  | .soundOperand => o.soundOperand.given?
  | .keyWait => o.keyWait.given?
  | .scale => o.scale.given?
  | .seed => o.seed.given?

namespace Session

variable {o : Options}

/-- The entry of a setting was given. -/
def isGiven : Config.Field × Value → Bool
  | (_, .null) => false
  | _ => true

/-- Of settings in a row, each that was given counts and each null does not. -/
theorem given?_filter_cons (g : Config.Field) (v : Value) (rest : Config.Overlay)
    (f : Config.Field) :
    Config.Overlay.given? (((g, v) :: rest).filter isGiven) f
      = (Config.Overlay.given? (rest.filter isGiven) f).or (if f = g then v.given? else none) := by
  cases v with
  | null => simp [isGiven, Value.given?]
  | _ => simp [List.filter_cons, isGiven, Value.given?, Config.Overlay.given?_cons]

theorem given?_rateOverlay {rate : Config.Overlay} (h : rateOverlay o.fps = .ok rate)
    (f : Config.Field) :
    rate.given? f = if f = .frameInterval then o.flag? .frameInterval else none := by
  cases hfps : o.fps with
  | null =>
    rw [hfps] at h
    obtain rfl := Except.ok.inj h
    simp [Config.Overlay.given?, Options.flag?, hfps]
  | float x =>
    rw [hfps, rateOverlay] at h
    split at h
    · cases h
    · obtain rfl := Except.ok.inj h
      rw [Config.Overlay.given?_cons]
      simp [Config.Overlay.given?, Options.flag?, hfps]
  | _ =>
    rw [hfps] at h
    cases h

/-- **The settings that options give** are those of their flags. -/
theorem given?_overlay {given : Config.Overlay} (h : overlay o = .ok given) (f : Config.Field) :
    given.given? f = o.flag? f := by
  have hlisted : Config.Overlay.given? (List.filter isGiven
      [(.instructionsPerFrame, o.speed), (.scale, o.scale), (.soundOperand, o.soundOperand),
        (.keyWait, o.keyWait), (.seed, o.seed)]) f
      = if f = .frameInterval then none else o.flag? f := by
    simp only [given?_filter_cons]
    cases f <;> simp [Options.flag?, Config.Overlay.given?]
  unfold overlay at h
  cases hrate : rateOverlay o.fps with
  | error e =>
    rw [hrate] at h
    cases h
  | ok rate =>
    rw [hrate] at h
    obtain rfl := Except.ok.inj h
    rw [Config.Overlay.given?_append, given?_rateOverlay hrate,
      List.filter_congr (q := isGiven) fun entry _ => ?_, hlisted]
    · split
      · rename_i hf
        rw [hf, Option.or_none]
      · exact Option.none_or
    · obtain ⟨_, v⟩ := entry
      cases v <;> rfl

theorem eq_of_given? {v w : Value} (h : v.given? = some w) : v = w ∧ v ≠ .null := by
  cases v with
  | null => cases h
  | _ => exact ⟨Option.some.inj h, nofun⟩

/-- What is given with an option is the trace of a separator or a word converted. -/
theorem given_of_stores {k : Flag} {v w : Value} (hs : k.Stores v) (h : v.given? = some w) :
    w = .list [] ∨ ∃ t, Parse.convert k t = .ok w := by
  obtain ⟨rfl, hnull⟩ := eq_of_given? h
  obtain rfl | hs := hs
  · exact absurd rfl hnull
  · exact hs

/-- A word that an option takes as a choice is one of its names. -/
theorem exists_name_of_convert {k : Flag} {names : List String} {t : Text} {v : Value}
    (hk : k.kind = .choice names) (h : Parse.convert k t = .ok v) :
    ∃ name ∈ names, v = .text (.ofString name) := by
  simp only [Parse.convert, hk, Parse.wrong] at h
  split at h
  · rename_i hchoice
    obtain rfl := Except.ok.inj h
    cases hname : t.toString? with
    | none =>
      rw [hname] at hchoice
      cases hchoice
    | some name =>
      rw [hname, Option.any_some] at hchoice
      exact ⟨name, List.contains_iff_mem.1 hchoice, by rw [Text.eq_ofString_of_toString? hname]⟩
  · cases h

theorem int_of_stores {k : Flag} {v w : Value} (hk : k.kind = .integer) (hs : k.Stores v)
    (h : v.given? = some w) : w = .list [] ∨ ∃ n, w = .int n := by
  refine (given_of_stores hs h).imp_right ?_
  rintro ⟨t, ht⟩
  have hint := Parse.holds_of_convert ht
  rwa [hk] at hint

theorem name_of_stores {k : Flag} {names : List String} {v w : Value}
    (hk : k.kind = .choice names) (hs : k.Stores v) (h : v.given? = some w) :
    w = .list [] ∨ ∃ name ∈ names, w = .text (.ofString name) := by
  refine (given_of_stores hs h).imp_right ?_
  rintro ⟨t, ht⟩
  exact exists_name_of_convert hk ht

/-- **A word that an option took converts to itself** as the setting. -/
theorem convert_flag {f : Config.Field} {stack : Stack} {v : Value} (ho : o.Stored)
    (h : o.flag? f = some v) : v = .list [] ∨ f.convert stack v = .ok v := by
  cases f with
  | memorySize => cases h
  | frameInterval =>
    simp only [Options.flag?] at h
    split at h
    · obtain rfl := Option.some.inj h
      exact .inr rfl
    · cases h
  | instructionsPerFrame =>
    refine (int_of_stores rfl (ho .speed) h).imp_right ?_
    rintro ⟨n, rfl⟩
    rfl
  | scale =>
    refine (int_of_stores rfl (ho .scale) h).imp_right ?_
    rintro ⟨n, rfl⟩
    rfl
  | seed =>
    refine (int_of_stores rfl (ho .seed) h).imp_right ?_
    rintro ⟨n, rfl⟩
    rfl
  | soundOperand =>
    refine (name_of_stores rfl (ho .soundOperand) h).imp_right ?_
    rintro ⟨name, hmem, rfl⟩
    obtain rfl | rfl : name = "x" ∨ name = "n" := by simpa using hmem
    · exact Config.convert_setting { soundOperand := .named } .soundOperand stack
    · exact Config.convert_setting { soundOperand := .lowNibble } .soundOperand stack
  | keyWait =>
    refine (name_of_stores rfl (ho .keyWait) h).imp_right ?_
    rintro ⟨name, hmem, rfl⟩
    obtain rfl | rfl : name = "release" ∨ name = "press" := by simpa using hmem
    · exact Config.convert_setting { keyWait := .onRelease } .keyWait stack
    · exact Config.convert_setting { keyWait := .onPress } .keyWait stack

/-- The trace of a separator is no setting of an accepted configuration. -/
theorem convert_trace_ne (c : Config) (f : Config.Field) (stack : Stack) :
    f.convert stack (.list []) ≠ .ok (c.setting f) := by
  intro h
  have htrace : Value.toName stack (.list []) = .ok "" := by
    simp [Value.toName, Value.parts, Value.partsOfItems, Value.unwritable?, stack.writes_zero]
  cases f with
  | soundOperand =>
    rw [Config.Field.convert, htrace] at h
    have hname := Config.ofName_injective (Except.ok.inj h)
    cases hc : c.soundOperand <;> simp [Config.draft, hc, SoundOperand.name] at hname
  | keyWait =>
    rw [Config.Field.convert, htrace] at h
    have hname := Config.ofName_injective (Except.ok.inj h)
    cases hc : c.keyWait <;> simp [Config.draft, hc, KeyWait.Mode.name] at hname
  | _ => cases h

/-- The settings of a run, those of its file with those of its options over them. -/
theorem config_eq {host : Host} {base : Config} {given : Config.Overlay}
    (hbase : Config.load host o.config = .ok base) (hgiven : overlay o = .ok given) :
    config host o = Config.ofOverlay host.stack (base.toOverlay ++ given) := by
  simp only [config, hbase, hgiven, bind, Except.bind]

theorem get_laidOver (base : Config) {given : Config.Overlay} (hgiven : overlay o = .ok given)
    (f : Config.Field) :
    (base.toOverlay ++ given).get f = (o.flag? f).getD (base.setting f) := by
  rw [Config.Overlay.get_append, given?_overlay hgiven, Config.get_toOverlay]

/-- **Laying options over a configuration is writing them over its mapping.** -/
theorem config_eq_load {host : Host} {base : Config} {entries : List (Value × Value)}
    {given : Config.Overlay} (hbase : Config.load host o.config = .ok base)
    (hgiven : overlay o = .ok given) (hk : Config.Known entries)
    (hconvert : ∀ f : Config.Field, f.convert host.stack (Config.valueIn entries f) = .ok (base.setting f)) :
    config host o = Config.load host (.map (Config.writeOver o.flag? entries)) := by
  rw [config_eq hbase hgiven]
  refine (Config.ofEntries_eq_ofOverlay (Config.known_writeOver hk o.flag?) fun f => ?_).symm
  rw [Config.valueIn_writeOver, get_laidOver base hgiven]
  cases o.flag? f with
  | none => exact (hconvert f).trans (base.convert_setting f host.stack).symm
  | some v => rfl

/-- **What a run is configured as**: each setting is the one its option gives, else that of
the file. -/
theorem setting_of_config {host : Host} {base c : Config} {given : Config.Overlay}
    (ho : o.Stored) (hbase : Config.load host o.config = .ok base)
    (hgiven : overlay o = .ok given) (hc : config host o = .ok c) (f : Config.Field) :
    c.setting f = (o.flag? f).getD (base.setting f) := by
  rw [config_eq hbase hgiven] at hc
  have hconvert := (Config.ofOverlay_eq_ok_iff.1 hc).2 f
  rw [get_laidOver base hgiven] at hconvert
  cases hflag : o.flag? f with
  | none =>
    rw [hflag, Option.getD_none, base.convert_setting] at hconvert
    exact (Except.ok.inj hconvert).symm
  | some v =>
    rw [hflag, Option.getD_some] at hconvert
    obtain rfl | hself := convert_flag ho hflag
    · exact absurd hconvert (convert_trace_ne c f host.stack)
    · exact Except.ok.inj (hconvert.symm.trans hself)

/-- What is configured has a file that is accepted on its own and options that give
settings. -/
theorem exists_base_of_config {host : Host} {c : Config} (h : config host o = .ok c) :
    ∃ base given, Config.load host o.config = .ok base ∧ overlay o = .ok given := by
  unfold config at h
  cases hbase : Config.load host o.config with
  | error e =>
    rw [hbase] at h
    cases h
  | ok base =>
    cases hgiven : overlay o with
    | error e =>
      rw [hbase, hgiven] at h
      cases h
    | ok given => exact ⟨base, given, rfl, rfl⟩

theorem accepted_of_config {host : Host} {c : Config} (h : config host o = .ok c) :
    c.Accepted := by
  obtain ⟨base, given, hbase, hgiven⟩ := exists_base_of_config h
  rw [config_eq hbase hgiven] at h
  exact (Config.ofOverlay_eq_ok_iff.1 h).1

theorem exists_overlay
    (h : o.fps = .null ∨ ∃ rate, o.fps = .float rate ∧ (0 < rate ∨ rate.isNaN = true)) :
    ∃ given, overlay o = .ok given := by
  unfold overlay
  obtain hfps | ⟨rate, hfps, hrate⟩ := h
  · rw [hfps]
    exact ⟨_, rfl⟩
  · rw [hfps, rateOverlay, if_neg ((Numeral.Double.not_le_zero_iff rate).2 hrate)]
    exact ⟨_, rfl⟩

/-- A frame rate that is refused refuses the run, if its file is accepted. -/
theorem config_eq_error {host : Host} {base : Config} {e : Config.Error}
    (hbase : Config.load host o.config = .ok base) (h : rateOverlay o.fps = .error e) :
    config host o = .error e := by
  simp only [config, hbase, overlay, h, bind, Except.bind]

/-- **The options and the file are one overlay**: given a file that is accepted on its own,
a run is configured, or refused, as its mapping is with the options written over it, a frame
rate as the interval that it asks for. So each setting is the one that its option gives, else
what the file says of it or the default. A rate of zero or less is refused before, and so is
the trace of a separator. Nothing is left of the way a configuration was come by: loading it
again, itself or its mapping, gives it back. -/
theorem config_is_one_overlay (host : Host) :
    (∀ args o base, parse args = .ok o → Config.load host o.config = .ok base →
      ∃ entries, Config.mapping host o.config = .ok entries
        ∧ (∀ f : Config.Field, f.convert host.stack (Config.valueIn entries f) = .ok (base.setting f))
        ∧ (o.fps = .null ∨ (∃ rate, o.fps = .float rate ∧ (0 < rate ∨ rate.isNaN = true)) →
            config host o = Config.load host (.map (Config.writeOver o.flag? entries))
              ∧ ∀ c, config host o = .ok c →
                ∀ f, c.setting f = (o.flag? f).getD (base.setting f))
        ∧ (∀ rate, o.fps = .float rate → rate ≤ 0 → config host o = .error .rateNotPositive)
        ∧ (o.fps = .list [] → config host o = .error .rateNotReal))
      ∧ ∀ c, (∃ v, Config.load host v = .ok c) ∨ (∃ o, config host o = .ok c) →
          Config.loadFields host c.setting = .ok c
            ∧ Config.load host (.map (Config.toEntries c.setting)) = .ok c := by
  constructor
  · intro args o base hparse hbase
    obtain ⟨-, entries, hmapping, hk, hconvert⟩ := Config.load_eq_ok_iff.1 hbase
    refine ⟨entries, hmapping, hconvert, fun hrate => ?_, fun rate hfps hle => ?_, fun hfps => ?_⟩
    · obtain ⟨given, hgiven⟩ := exists_overlay hrate
      refine ⟨config_eq_load hbase hgiven hk hconvert, fun c hc => ?_⟩
      exact setting_of_config (stored_of_parse hparse) hbase hgiven hc
    · refine config_eq_error hbase ?_
      rw [hfps, rateOverlay, if_pos hle]
    · refine config_eq_error hbase ?_
      rw [hfps]
      rfl
  · intro c hc
    have haccepted : c.Accepted := by
      obtain ⟨v, hload⟩ | ⟨o, hconfig⟩ := hc
      · exact (Config.load_eq_ok_iff.1 hload).1
      · exact accepted_of_config hconfig
    exact ⟨Config.loadFields_setting haccepted host, Config.load_setting haccepted host⟩

/-- The options of `--fps 50 --seed 0 g`. -/
def paced : Options := { rom := "g", fps := .float 50, seed := .int 0 }

theorem parse_paced : parse ["--fps", "50", "--seed", "0", "g"] = .ok paced := by
  have hrom : Parse.run { options := { fps := .float 50, seed := .int 0 } } [.value "g"]
      = .ok { options := { fps := .float 50, seed := .int 0 }, rom? := some "g" } := by
    rw [Parse.run.eq_def]
    exact Parse.run.eq_def ..
  have hseed : Parse.run { options := { fps := .float 50 } }
        [.option .seed "--seed" none, .value "0", .value "g"]
      = .ok { options := { fps := .float 50, seed := .int 0 }, rom? := some "g" } := by
    rw [Parse.run.eq_def]
    exact hrom
  have hfps : Parse.run {} [.option .fps "--fps" none, .value "50",
        .option .seed "--seed" none, .value "0", .value "g"]
      = .ok { options := { fps := .float 50, seed := .int 0 }, rom? := some "g" } := by
    rw [Parse.run.eq_def]
    exact hseed
  change Parse.run {} [.option .fps "--fps" none, .value "50", .option .seed "--seed" none,
    .value "0", .value "g"] >>= Parse.finish = _
  rw [hfps]
  rfl

theorem config_paced : config .bare paced
    = .ok { frameInterval := 1000 / 50, seed := some 0 } := by
  obtain ⟨given, hgiven⟩ := exists_overlay (o := paced) (.inr ⟨50, rfl, .inl (by decide)⟩)
  rw [config_eq (Config.load_null _) hgiven]
  refine Config.ofOverlay_eq_ok_iff.2 ⟨⟨by decide, by decide, by decide, by decide⟩, fun f => ?_⟩
  have hflag : (paced.flag? f).getD (Config.setting {} f)
      = Config.setting { frameInterval := 1000 / 50, seed := some 0 } f := by
    cases f <;> simp [paced, Options.flag?, Value.given?, Config.setting, Config.draft,
      Config.Draft.setting, Config.seedValue]
  rw [get_laidOver {} hgiven, hflag, Config.convert_setting]

/-- Where no file is named, the defaults are written over: a seed of zero is a seed, and a rate
of fifty frames in a second gives the interval. -/
theorem config_is_one_overlay_paced :
    parse ["--fps", "50", "--seed", "0", "g"] = .ok paced
      ∧ Config.load .bare .null = .ok {}
      ∧ config .bare paced
        = Config.load .bare (.map (Config.writeOver paced.flag? []))
      ∧ config .bare paced
        = .ok { frameInterval := 1000 / 50, seed := some 0 }
      ∧ ∀ f, Config.setting { frameInterval := 1000 / 50, seed := some 0 } f
        = (paced.flag? f).getD (Config.setting {} f) := by
  have hbase := Config.load_null .bare
  obtain ⟨entries, hentries, -, hone, -⟩ := (config_is_one_overlay .bare).1
    _ paced {} parse_paced hbase
  obtain rfl := Except.ok.inj hentries
  obtain ⟨hload, hsettings⟩ := hone (.inr ⟨50, rfl, .inl (by decide)⟩)
  exact ⟨parse_paced, hbase, hload, config_paced, hsettings _ config_paced⟩

end Session
end ChipEight
