import SpecSkeleton.Proofs.Settings.Verdict

/-!
# Settings by their rules

A table gives settings just if it keeps all the rules, and the first rule it breaks is the one it is
refused for (`settings_by_rules`). Nothing but the entries that the rules speak of has an influence
(`SaysAlike`). One thing breaks a rule and is no matter of refusal: a level that holds a number too
long to be written.
-/

namespace SpecSkeleton

namespace Settings

/-! ## What settings depend on -/

section
variable {given given' : Option String} {data other : Value} {source : FilePath}
  {s s' : Settings}

theorem LevelText.unique {text other : String} (h : LevelText given data text)
    (hother : LevelText given data other) : text = other := by
  cases h with
  | override hgiven htext =>
    subst hgiven
    cases hother with
    | override hsame _ => exact Option.some.inj hsame
    | file hempty _ _ => exact absurd hempty htext
    | default hempty _ => exact absurd hempty htext
  | file hgiven hv hwritten =>
    cases hother with
    | override hsome htext =>
      subst hsome
      exact absurd hgiven htext
    | file _ hv' hwritten' =>
      cases hv.symm.trans hv'
      exact Except.ok.inj (hwritten.symm.trans hwritten')
    | default _ hnone => cases hv.symm.trans hnone
  | default hgiven hnone =>
    cases hother with
    | override hsome htext =>
      subst hsome
      exact absurd hgiven htext
    | file _ hv _ => cases hv.symm.trans hnone
    | default _ _ => rfl

/-- The override decides nothing but the level. -/
theorem ReadFrom.eq_but_level (h : s.ReadFrom given data source)
    (h' : s'.ReadFrom given' data source) : s' = { s with level := s'.level } := by
  have htext : Function.Injective Value.text := fun _ _ => Value.text.inj
  have hbool : Function.Injective Value.bool := fun _ _ => Value.bool.inj
  have hlist : Function.Injective fun ss : List String => Value.list (ss.map .text) :=
    fun _ _ heq => (List.map_inj_right fun _ _ => Value.text.inj).mp (Value.list.inj heq)
  obtain ⟨suffix, dirs, hooks, lets, level, file⟩ := s'
  rw [Settings.mk.injEq]
  exact ⟨h'.suffix.unique htext h.suffix, h'.dirs.unique hlist h.dirs,
    h'.hooks.unique hbool h.hooks, h'.lets.unique hbool h.lets, rfl,
    h'.source_eq.trans h.source_eq.symm⟩

theorem ReadFrom.unique (h : s.ReadFrom given data source) (h' : s'.ReadFrom given data source) :
    s' = s := by
  obtain ⟨text, htext, hlevel⟩ := h.level
  obtain ⟨other, hother, hlevel'⟩ := h'.level
  rw [hother.unique htext, hlevel] at hlevel'
  have hsame := h.eq_but_level h'
  rwa [← Level.name_inj hlevel'] at hsame

end

end Settings

/-- Whether two values hold the same under every key that has a meaning. -/
structure Value.SaysAlike (data other : Value) : Prop where
  table_iff : other.IsTable ↔ data.IsTable
  outline_iff : (∀ v ∈ other.field? "outline", v.IsTable) ↔ ∀ v ∈ data.field? "outline", v.IsTable
  logging_iff : (∀ v ∈ other.field? "logging", v.IsTable) ↔ ∀ v ∈ data.field? "logging", v.IsTable
  suffix_eq : other.partField? "outline" "spec_suffix" = data.partField? "outline" "spec_suffix"
  dirs_eq : other.partField? "outline" "spec_dirs" = data.partField? "outline" "spec_dirs"
  hooks_eq : other.partField? "outline" "show_hooks" = data.partField? "outline" "show_hooks"
  lets_eq : other.partField? "outline" "show_lets" = data.partField? "outline" "show_lets"
  level_eq : other.partField? "logging" "level" = data.partField? "logging" "level"

section
variable {given : Option String} {data other : Value} {source : FilePath}

theorem Value.SaysAlike.holds_iff (h : data.SaysAlike other) (rule : SettingsRule) :
    rule.Holds given other ↔ rule.Holds given data := by
  cases rule with
  | table => exact h.table_iff
  | outline => exact h.outline_iff
  | logging => exact h.logging_iff
  | suffix => simp only [SettingsRule.Holds, h.suffix_eq]
  | dirs => simp only [SettingsRule.Holds, h.dirs_eq]
  | hooks => simp only [SettingsRule.Holds, h.hooks_eq]
  | lets => simp only [SettingsRule.Holds, h.lets_eq]
  | level => simp only [SettingsRule.Holds, h.level_eq]
  | override => exact Iff.rfl

theorem Value.SaysAlike.fault_eq (h : data.SaysAlike other) (rule : SettingsRule) :
    rule.fault given other source = rule.fault given data source := by
  cases rule with
  | level => simp only [SettingsRule.fault, h.level_eq]
  | _ => rfl

theorem Value.SaysAlike.levelText (h : data.SaysAlike other) {text : String}
    (htext : Settings.LevelText given data text) : Settings.LevelText given other text := by
  cases htext with
  | override hgiven htext => exact .override hgiven htext
  | file hgiven hv hwritten => exact .file hgiven (h.level_eq.trans hv) hwritten
  | default hgiven hnone => exact .default hgiven (h.level_eq.trans hnone)

theorem Value.SaysAlike.readFrom (h : data.SaysAlike other) {s : Settings}
    (hread : s.ReadFrom given data source) : s.ReadFrom given other source where
  suffix := h.suffix_eq ▸ hread.suffix
  dirs := h.dirs_eq ▸ hread.dirs
  hooks := h.hooks_eq ▸ hread.hooks
  lets := h.lets_eq ▸ hread.lets
  level := by
    obtain ⟨text, htext, hlevel⟩ := hread.level
    exact ⟨text, h.levelText htext, hlevel⟩
  source_eq := hread.source_eq

theorem Value.SaysAlike.firstBroken (h : data.SaysAlike other) {rule : SettingsRule}
    (hfirst : SettingsRule.FirstBroken given data rule) :
    SettingsRule.FirstBroken given other rule := by
  obtain ⟨before, after, hall, hbefore, hbroken⟩ := hfirst
  exact ⟨before, after, hall, fun earlier hearlier => (h.holds_iff earlier).mpr
    (hbefore earlier hearlier), fun hholds => hbroken ((h.holds_iff rule).mp hholds)⟩

/-- Keys without a meaning have no influence. -/
theorem Value.SaysAlike.ofValue_eq (h : data.SaysAlike other) :
    Settings.ofValue given other source = Settings.ofValue given data source := by
  have hdata := Settings.verdict_ofValue given data source
  have hother := Settings.verdict_ofValue given other source
  generalize Settings.ofValue given data source = r at hdata
  generalize Settings.ofValue given other source = r' at hother
  cases hdata with
  | read hholds hread =>
    cases hother with
    | read _ hread' => rw [(h.readFrom hread).unique hread']
    | broken hfirst =>
      obtain ⟨_, _, _, _, hbroken⟩ := hfirst
      exact absurd ((h.holds_iff _).mpr (hholds _)) hbroken
  | broken hfirst =>
    cases hother with
    | read hholds _ =>
      obtain ⟨_, _, _, _, hbroken⟩ := hfirst
      exact absurd ((h.holds_iff _).mp (hholds _)) hbroken
    | broken hfirst' => rw [(h.firstBroken hfirst).unique hfirst', h.fault_eq]

end

/-! ## The rules decide -/

section
variable {given : Option String} {data : Value} {source : FilePath}

theorem Settings.readFrom_of_ok {s : Settings}
    (h : Settings.ofValue given data source = .ok s) : s.ReadFrom given data source := by
  have hverdict := Settings.verdict_ofValue given data source
  rw [h] at hverdict
  cases hverdict with
  | read _ hread => exact hread

theorem Settings.exists_ok_iff :
    (∃ s, Settings.ofValue given data source = .ok s) ↔
      ∀ rule, SettingsRule.Holds given data rule := by
  have hverdict := Settings.verdict_ofValue given data source
  generalize Settings.ofValue given data source = r at hverdict
  cases hverdict with
  | read hholds hread => exact iff_of_true ⟨_, rfl⟩ hholds
  | broken hfirst =>
    obtain ⟨_, _, _, _, hbroken⟩ := hfirst
    exact iff_of_false nofun fun hholds => hbroken (hholds _)

theorem Settings.error_iff {fault : SettingsFault} :
    Settings.ofValue given data source = .error fault ↔
      ∃ rule, SettingsRule.FirstBroken given data rule ∧
        fault = rule.fault given data source := by
  have hverdict := Settings.verdict_ofValue given data source
  generalize Settings.ofValue given data source = r at hverdict
  cases hverdict with
  | read hholds hread =>
    refine iff_of_false nofun ?_
    rintro ⟨rule, ⟨_, _, _, _, hbroken⟩, -⟩
    exact hbroken (hholds rule)
  | broken hfirst =>
    constructor
    · intro heq
      exact ⟨_, hfirst, (Except.error.inj heq).symm⟩
    · rintro ⟨rule, hfirst', rfl⟩
      rw [hfirst.unique hfirst']

theorem SettingsRule.fault_isRefusal_iff (rule : SettingsRule) :
    (rule.fault given data source).IsRefusal ↔
      (rule = .level → ∀ v ∈ data.partField? "logging" "level", v.hasLongNumber = false) := by
  cases rule with
  | level =>
    simp only [fault, levelFault]
    cases data.partField? "logging" "level" with
    | none => simp [Value.hasLongNumber, SettingsFault.IsRefusal]
    | some v => cases hlong : v.hasLongNumber <;> simp [hlong, SettingsFault.IsRefusal]
  | _ => simp [fault, SettingsFault.IsRefusal]

end

/-- A table gives settings just if it keeps all rules, and the first rule it breaks is what it is
refused for; only a level with a number too long to be written is no matter of refusal. The settings
are the given ones or the defaults, keys without a meaning have no influence, and the override
decides nothing but the level. -/
theorem settings_by_rules (given : Option String) (data : Value) (source : FilePath) :
    ((∃ s, Settings.ofValue given data source = .ok s) ↔
        ∀ rule, SettingsRule.Holds given data rule) ∧
      (∀ fault, Settings.ofValue given data source = .error fault ↔
        ∃ rule, SettingsRule.FirstBroken given data rule ∧
          fault = rule.fault given data source) ∧
      (∀ rule : SettingsRule, (rule.fault given data source).IsRefusal ↔
        (rule = .level → ∀ v ∈ data.partField? "logging" "level", v.hasLongNumber = false)) ∧
      (∀ s, Settings.ofValue given data source = .ok s → s.ReadFrom given data source) ∧
      (∀ other, data.SaysAlike other →
        Settings.ofValue given other source = Settings.ofValue given data source) ∧
      ∀ given' s s', Settings.ofValue given data source = .ok s →
        Settings.ofValue given' data source = .ok s' → s' = { s with level := s'.level } := by
  refine ⟨Settings.exists_ok_iff, fun _ => Settings.error_iff,
    fun rule => rule.fault_isRefusal_iff, fun _ => Settings.readFrom_of_ok,
    fun _ h => h.ofValue_eq, fun given' s s' hs hs' => ?_⟩
  have hread := Settings.readFrom_of_ok hs
  exact hread.eq_but_level (Settings.readFrom_of_ok hs')

/-- Two tables that differ in keys without a meaning give the same settings, with the level of the
override or without it; and where directories and a switch are no good, the directories count. -/
theorem settings_by_rules_override :
    ∃ (data other bad : Value) (source : FilePath) (s s' : Settings),
      data = .table [("x", .int 1),
        ("outline", .table [("spec_suffix", .text "_t.rb"), ("y", .null)]),
        ("logging", .table [("level", .text "debug")])] ∧
      other = .table [("logging", .table [("level", .text "debug")]),
        ("outline", .table [("spec_suffix", .text "_t.rb")])] ∧
      Settings.ofValue (some "warning") data source = .ok s ∧
      s.ReadFrom (some "warning") data source ∧
      data.SaysAlike other ∧ Settings.ofValue (some "warning") other source = .ok s ∧
      Settings.ofValue none data source = .ok s' ∧ s' = { s with level := .debug } ∧
      SettingsRule.FirstBroken none bad .dirs ∧
      Settings.ofValue none bad source = .error (.refused (.badDirs source)) := by
  let data : Value := .table [("x", .int 1),
    ("outline", .table [("spec_suffix", .text "_t.rb"), ("y", .null)]),
    ("logging", .table [("level", .text "debug")])]
  let other : Value := .table [("logging", .table [("level", .text "debug")]),
    ("outline", .table [("spec_suffix", .text "_t.rb")])]
  let bad : Value := .table [("outline", .table [("spec_dirs", .list [.int 1]),
    ("show_lets", .int 0)])]
  let source : FilePath := ⟨.relative, ["c.toml"]⟩
  let s : Settings := ⟨"_t.rb", ["spec/"], true, true, .warning, some source⟩
  let s' : Settings := ⟨"_t.rb", ["spec/"], true, true, .debug, some source⟩
  have hs : Settings.ofValue (some "warning") data source = .ok s := by rfl
  have hs' : Settings.ofValue none data source = .ok s' := by rfl
  have halike : data.SaysAlike other := by
    refine ⟨?_, ?_, ?_, rfl, rfl, rfl, rfl, rfl⟩
    all_goals simp [Value.IsTable, Value.field?, Fields.get?, data, other, List.lookup_cons]
  have hfirst : SettingsRule.FirstBroken none bad .dirs := by
    have hdirs : bad.partField? "outline" "spec_dirs" = some (.list [.int 1]) := rfl
    refine ⟨[.table, .outline, .logging, .suffix], _, rfl, ?_, ?_⟩
    · simp [SettingsRule.Holds, Value.IsTable, Value.partField?, Value.field?, Fields.get?, bad,
        List.lookup_cons, List.lookup_nil]
    · intro hholds
      obtain ⟨ss, hss⟩ := hholds _ hdirs
      cases ss <;> simp at hss
  obtain ⟨-, -, -, hread, hsame, hoverride⟩ := settings_by_rules (some "warning") data source
  obtain ⟨-, herror, -⟩ := settings_by_rules none bad source
  refine ⟨data, other, bad, source, s, s', rfl, rfl, hs, hread s hs, halike,
    (hsame other halike).trans hs, hs', hoverride none s s' hs hs', hfirst, ?_⟩
  exact (herror _).mpr ⟨.dirs, hfirst, rfl⟩

/-- A level that is a number of more than 4300 digits is no level, but the settings are not refused
for it. -/
theorem long_level_not_refused :
    ∃ (n : Int) (data : Value) (source : FilePath) (fault : SettingsFault),
      n = Nat.pow 16 3572 ∧ data = .table [("logging", .table [("level", .int n)])] ∧
        SettingsRule.FirstBroken none data .level ∧
        Settings.ofValue none data source = .error fault ∧ ¬ fault.IsRefusal := by
  have hlong : (Value.int (Nat.pow 16 3572 : Nat)).hasLongNumber = true := by decide +kernel
  -- the number itself is of no further use
  generalize ((Nat.pow 16 3572 : Nat) : Int) = n at hlong ⊢
  let data : Value := .table [("logging", .table [("level", .int n)])]
  let source : FilePath := ⟨.relative, ["c.toml"]⟩
  have hlevel : data.partField? "logging" "level" = some (.int n) := rfl
  have hfirst : SettingsRule.FirstBroken none data .level := by
    refine ⟨[.table, .outline, .logging, .suffix, .dirs, .hooks, .lets], _, rfl, ?_, ?_⟩
    · simp [SettingsRule.Holds, Value.IsTable, Value.partField?, Value.field?, Fields.get?, data,
        List.lookup_cons, List.lookup_nil]
    · intro hholds
      obtain ⟨text, level, hwritten, -⟩ := hholds _ hlevel
      have hshort := (Value.written_eq_ok_iff.mp hwritten).1
      cases hlong.symm.trans hshort
  refine ⟨n, data, source, _, rfl, rfl, hfirst,
    Settings.error_iff.mpr ⟨.level, hfirst, rfl⟩, ?_⟩
  rw [SettingsRule.fault_isRefusal_iff]
  intro hall
  have hshort := hall rfl _ hlevel
  cases hlong.symm.trans hshort

end SpecSkeleton
