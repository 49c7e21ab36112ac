import SpecSkeleton.Proofs.Settings.Faults

/-!
# The rules for settings

`SettingsRule` lists what is asked of a table and of the level override, in the order in which it is
checked. Each check comes to a verdict on one rule, and the chain of them to one on all: settings
that are read as `ReadFrom` says, or the fault of the first rule that is broken
(`verdict_ofValue`).
-/

namespace SpecSkeleton

/-! ## Entries -/

namespace Value

/-- What a table has at a key. Other values have nothing. -/
def field? : Value → String → Option Value
  | table fields, key => Fields.get? fields key
  | _, _ => none

/-- What a part of a table has at a key. -/
def partField? (data : Value) (part key : String) : Option Value :=
  (data.field? part).bind (·.field? key)

def IsTable (v : Value) : Prop :=
  ∃ fields, v = table fields

/-- Whether the text of a value names a level once it is in upper case. -/
def NamesLevel (v : Value) : Prop :=
  ∃ text level, v.written = .ok text ∧ Text.upper text = Level.name level

end Value

/-- What is asked of settings, in the order in which it is asked. -/
inductive SettingsRule where
  | table
  | outline
  | logging
  | suffix
  | dirs
  | hooks
  | lets
  | level
  | override
  deriving DecidableEq, Repr

namespace SettingsRule

def all : List SettingsRule :=
  [table, outline, logging, suffix, dirs, hooks, lets, level, override]

theorem mem_all (rule : SettingsRule) : rule ∈ all := by
  cases rule <;> decide

def Holds (given : Option String) (data : Value) : SettingsRule → Prop
  | table => data.IsTable
  | outline => ∀ v ∈ data.field? "outline", v.IsTable
  | logging => ∀ v ∈ data.field? "logging", v.IsTable
  | suffix => ∀ v ∈ data.partField? "outline" "spec_suffix", ∃ s, v = .text s ∧ s ≠ ""
  | dirs => ∀ v ∈ data.partField? "outline" "spec_dirs",
      ∃ ss : List String, v = .list (ss.map .text)
  | hooks => ∀ v ∈ data.partField? "outline" "show_hooks", ∃ b, v = .bool b
  | lets => ∀ v ∈ data.partField? "outline" "show_lets", ∃ b, v = .bool b
  | level => ∀ v ∈ data.partField? "logging" "level", v.NamesLevel
  | override => ∀ text ∈ given, text = "" ∨ ∃ level, Text.upper text = Level.name level

/-- What is said of a level that breaks its rule. -/
def levelFault (v : Value) (source : FilePath) : SettingsFault :=
  if v.hasLongNumber then .longNumber .written else .refused (.unknownLevel source v)

/-- What is said of data that break a rule. -/
def fault (given : Option String) (data : Value) (source : FilePath) :
    SettingsRule → SettingsFault
  | table => .refused (.noTable source "tool.rspec-outline")
  | outline => .refused (.noTable source "outline")
  | logging => .refused (.noTable source "logging")
  | suffix => .refused (.badSuffix source)
  | dirs => .refused (.badDirs source)
  | hooks => .refused (.badSwitch source "show_hooks")
  | lets => .refused (.badSwitch source "show_lets")
  | level => levelFault ((data.partField? "logging" "level").getD .null) source
  | override => .refused (.unknownLevel levelVariable (.text (given.getD "")))

/-- The data break the rule and none before it. -/
def FirstBroken (given : Option String) (data : Value) (rule : SettingsRule) : Prop :=
  ∃ before after, all = before ++ rule :: after ∧ (∀ earlier ∈ before, earlier.Holds given data) ∧
    ¬ rule.Holds given data

theorem FirstBroken.unique {given : Option String} {data : Value} {rule other : SettingsRule}
    (h : FirstBroken given data rule) (hother : FirstBroken given data other) : rule = other := by
  obtain ⟨before, after, hsplit, hbefore, hbroken⟩ := h
  obtain ⟨before', after', hsplit', hbefore', hbroken'⟩ := hother
  rw [hsplit] at hsplit'
  rcases List.append_eq_append_iff.mp hsplit' with ⟨more, rfl, hmore⟩ | ⟨more, rfl, hmore⟩
  · cases more with
    | nil => exact (List.cons.inj hmore).1
    | cons r more =>
      obtain ⟨rfl, -⟩ := List.cons.inj hmore
      exact absurd (hbefore' rule (by simp)) hbroken
  · cases more with
    | nil => exact (List.cons.inj hmore).1.symm
    | cons r more =>
      obtain ⟨rfl, -⟩ := List.cons.inj hmore
      exact absurd (hbefore other (by simp)) hbroken'

end SettingsRule

/-! ## One check at a time -/

section
variable (fields : Fields) (key : String) (source : FilePath)

theorem tableAt_cases :
    (∃ inner, Fields.tableAt fields key source = .ok inner ∧
        (∀ v ∈ Fields.get? fields key, v.IsTable) ∧
        ∀ k, Fields.get? inner k = (Value.table fields).partField? key k) ∨
      (Fields.tableAt fields key source = .error (.noTable source key) ∧
        ¬ ∀ v ∈ Fields.get? fields key, v.IsTable) := by
  unfold Fields.tableAt Value.partField?
  simp only [Value.field?]
  cases hget : Fields.get? fields key with
  | none => exact .inl ⟨[], rfl, nofun, fun _ => rfl⟩
  | some v =>
    cases v with
    | table inner => exact .inl ⟨inner, rfl, by simp [Value.IsTable], fun _ => rfl⟩
    | _ => exact .inr ⟨rfl, by simp [Value.IsTable]⟩

/-- What a setting is: the default if it is not given, else what is given. -/
def Gives {α : Type} (given : Option Value) (value : α → Value) (default a : α) : Prop :=
  given = none ∧ a = default ∨ given = some (value a)

theorem Gives.unique {α : Type} {given : Option Value} {value : α → Value} {default a b : α}
    (hvalue : Function.Injective value) (ha : Gives given value default a)
    (hb : Gives given value default b) : a = b := by
  rcases ha with ⟨hnone, rfl⟩ | ha
  · rcases hb with ⟨-, rfl⟩ | hb
    · rfl
    · cases hnone.symm.trans hb
  · rcases hb with ⟨hnone, -⟩ | hb
    · cases hnone.symm.trans ha
    · exact hvalue (Option.some.inj (ha.symm.trans hb))

theorem suffixOf_cases :
    (∃ s, Settings.suffixOf fields source = .ok s ∧
        (∀ v ∈ Fields.get? fields "spec_suffix", ∃ s, v = .text s ∧ s ≠ "") ∧
        Gives (Fields.get? fields "spec_suffix") .text "_spec.rb" s) ∨
      (Settings.suffixOf fields source = .error (.badSuffix source) ∧
        ¬ ∀ v ∈ Fields.get? fields "spec_suffix", ∃ s, v = .text s ∧ s ≠ "") := by
  unfold Settings.suffixOf
  cases hget : Fields.get? fields "spec_suffix" with
  | none => exact .inl ⟨_, rfl, nofun, .inl ⟨rfl, rfl⟩⟩
  | some v =>
    cases v with
    | text s =>
      by_cases hs : s = ""
      · exact .inr ⟨by simp [hs], by simp [hs]⟩
      · exact .inl ⟨s, by simp [hs], by simp [hs], .inr rfl⟩
    | _ => exact .inr ⟨rfl, by simp⟩

theorem texts?_eq_some_iff {items : List Value} {texts : List String} :
    texts? items = some texts ↔ items = texts.map .text := by
  fun_induction texts? items generalizing texts with
  | case1 => simp [eq_comm]
  | case2 s rest ih =>
    cases texts with
    | nil => simp
    | cons t texts =>
      have hmap : (texts? rest).map (s :: ·) = some (t :: texts) ↔
          s = t ∧ texts? rest = some texts := by
        cases texts? rest <;> simp
      simp [hmap, ih]
  | case3 items hnil htext =>
    cases texts with
    | nil => simpa using hnil
    | cons s texts =>
      refine iff_of_false nofun fun h => ?_
      exact htext _ _ h

theorem dirsOf_cases :
    (∃ ss, Settings.dirsOf fields source = .ok ss ∧
        (∀ v ∈ Fields.get? fields "spec_dirs", ∃ ss : List String, v = .list (ss.map .text)) ∧
        Gives (Fields.get? fields "spec_dirs") (fun ss => .list (ss.map .text)) ["spec/"] ss) ∨
      (Settings.dirsOf fields source = .error (.badDirs source) ∧
        ¬ ∀ v ∈ Fields.get? fields "spec_dirs", ∃ ss : List String, v = .list (ss.map .text)) := by
  unfold Settings.dirsOf
  cases hget : Fields.get? fields "spec_dirs" with
  | none => exact .inl ⟨_, rfl, nofun, .inl ⟨rfl, rfl⟩⟩
  | some v =>
    cases v with
    | list items =>
      cases htexts : texts? items with
      | some ss =>
        obtain rfl := texts?_eq_some_iff.mp htexts
        refine .inl ⟨ss, by simp [htexts], fun v hv => ⟨ss, ?_⟩, .inr rfl⟩
        exact (Option.some.inj hv).symm
      | none =>
        refine .inr ⟨by simp [htexts], fun h => ?_⟩
        obtain ⟨ss, hss⟩ := h _ rfl
        rw [Value.list.injEq] at hss
        rw [texts?_eq_some_iff.mpr hss] at htexts
        cases htexts
    | _ => exact .inr ⟨rfl, by simp⟩

theorem switchOf_cases :
    (∃ b, Settings.switchOf fields key source = .ok b ∧
        (∀ v ∈ Fields.get? fields key, ∃ b, v = .bool b) ∧
        Gives (Fields.get? fields key) .bool true b) ∨
      (Settings.switchOf fields key source = .error (.badSwitch source key) ∧
        ¬ ∀ v ∈ Fields.get? fields key, ∃ b, v = .bool b) := by
  unfold Settings.switchOf
  cases hget : Fields.get? fields key with
  | none => exact .inl ⟨_, rfl, nofun, .inl ⟨rfl, rfl⟩⟩
  | some v =>
    cases v with
    | bool b => exact .inl ⟨b, rfl, by simp, .inr rfl⟩
    | _ => exact .inr ⟨rfl, by simp⟩

end

theorem Level.ofName?_eq_some_iff {text : String} {level : Level} :
    ofName? text = some level ↔ text = level.name := by
  constructor
  · intro h
    have hname : level.name = text := by simpa using List.find?_some h
    exact hname.symm
  · rintro rfl
    cases level <;> decide

theorem Level.name_inj {level other : Level} (h : level.name = other.name) : level = other :=
  Option.some.inj ((ofName?_eq_some_iff.mpr rfl).symm.trans (ofName?_eq_some_iff.mpr h))

theorem Value.written_eq_ok_iff {v : Value} {text : String} :
    v.written = .ok text ↔ v.hasLongNumber = false ∧ v.shown = text := by
  unfold written
  cases v.hasLongNumber <;> simp

theorem Level.ofValue_verdict (v : Value) (source : FilePath) :
    (∃ text level, ofValue v source = .ok level ∧ v.written = .ok text ∧
        Text.upper text = level.name) ∨
      (ofValue v source = .error (SettingsRule.levelFault v source) ∧ ¬ v.NamesLevel) := by
  unfold SettingsRule.levelFault
  cases hlong : v.hasLongNumber with
  | true =>
    refine .inr ⟨ofValue_of_long hlong, ?_⟩
    rintro ⟨text, level, hwritten, -⟩
    rw [(Value.written_eq_ok_iff.mp hwritten).1] at hlong
    cases hlong
  | false =>
    have hwritten : v.written = .ok v.shown := Value.written_eq_ok_iff.mpr ⟨hlong, rfl⟩
    rw [ofValue_of_short hlong]
    cases hname : ofName? (Text.upper v.shown) with
    | some level => exact .inl ⟨_, level, rfl, hwritten, ofName?_eq_some_iff.mp hname⟩
    | none =>
      refine .inr ⟨rfl, ?_⟩
      rintro ⟨text, level, htext, hlevel⟩
      rw [(Value.written_eq_ok_iff.mp htext).2, ofName?_eq_some_iff.mpr hlevel] at hname
      cases hname

/-! ## All checks -/

namespace Settings

/-- The text that names the level: the override unless it is empty, or else that of the level which
is given. -/
inductive LevelText (given : Option String) (data : Value) : String → Prop where
  | override {text : String} (hgiven : given = some text) (htext : text ≠ "") :
      LevelText given data text
  | file {v : Value} {text : String} (hgiven : given.getD "" = "")
      (hv : data.partField? "logging" "level" = some v) (htext : v.written = .ok text) :
      LevelText given data text
  | default (hgiven : given.getD "" = "") (hnone : data.partField? "logging" "level" = none) :
      LevelText given data "INFO"

/-- Whether settings are those that data give. -/
structure ReadFrom (s : Settings) (given : Option String) (data : Value) (source : FilePath) :
    Prop where
  suffix : Gives (data.partField? "outline" "spec_suffix") .text "_spec.rb" s.specSuffix
  dirs : Gives (data.partField? "outline" "spec_dirs") (fun ss => .list (ss.map .text)) ["spec/"]
    s.specDirs
  hooks : Gives (data.partField? "outline" "show_hooks") .bool true s.showHooks
  lets : Gives (data.partField? "outline" "show_lets") .bool true s.showLets
  level : ∃ text, LevelText given data text ∧ Text.upper text = s.level.name
  source_eq : s.source = some source

/-- What can come of data: settings if they keep all rules, else the fault of the first broken one.
-/
inductive Verdict (given : Option String) (data : Value) (source : FilePath) :
    Except SettingsFault Settings → Prop where
  | read {s : Settings} (hholds : ∀ rule, SettingsRule.Holds given data rule)
      (hread : s.ReadFrom given data source) : Verdict given data source (.ok s)
  | broken {rule : SettingsRule} (hfirst : SettingsRule.FirstBroken given data rule) :
      Verdict given data source (.error (rule.fault given data source))

theorem withOverride_verdict (s : Settings) (given : Option String) :
    (∃ level, s.withOverride given = .ok { s with level } ∧
        (∀ text ∈ given, text = "" ∨ ∃ level, Text.upper text = Level.name level) ∧
        ((∃ text, given = some text ∧ text ≠ "" ∧ Text.upper text = level.name) ∨
          given.getD "" = "" ∧ level = s.level)) ∨
      s.withOverride given =
          .error (.refused (.unknownLevel levelVariable (.text (given.getD "")))) ∧
        ¬ ∀ text ∈ given, text = "" ∨ ∃ level, Text.upper text = Level.name level := by
  cases given with
  | none => exact .inl ⟨s.level, rfl, nofun, .inr ⟨rfl, rfl⟩⟩
  | some text =>
    by_cases htext : text = ""
    · subst htext
      exact .inl ⟨s.level, rfl, by simp, .inr ⟨rfl, rfl⟩⟩
    · have hwith : s.withOverride (some text) =
          (Level.ofValue (.text text) levelVariable).map fun level => { s with level } := by
        simp [withOverride, htext]
      rw [hwith]
      obtain ⟨_, level, hlevel, hwritten, hupper⟩ | ⟨hlevel, hnames⟩ :=
        Level.ofValue_verdict (.text text) levelVariable
      · rw [hlevel]
        cases hwritten
        refine .inl ⟨level, rfl, fun t ht => .inr ⟨level, ?_⟩, .inl ⟨text, rfl, htext, hupper⟩⟩
        rwa [← Option.some.inj ht]
      · rw [hlevel]
        refine .inr ⟨rfl, fun h => ?_⟩
        obtain h | ⟨level, hupper⟩ := h text rfl
        · exact htext h
        · exact hnames ⟨text, level, rfl, hupper⟩

/-! ### The chain -/

/-- What a check of a rule can give: something fitting if the rule holds, else the fault of the
rule. -/
inductive Check {α : Type} (given : Option String) (data : Value) (source : FilePath)
    (rule : SettingsRule) (fits : α → Prop) : Except SettingsFault α → Prop where
  | passes {a : α} (hholds : rule.Holds given data) (hfits : fits a) :
      Check given data source rule fits (.ok a)
  | fails (hbroken : ¬ rule.Holds given data) :
      Check given data source rule fits (.error (rule.fault given data source))

section
variable {α : Type} {given : Option String} {data : Value} {source : FilePath}
  {rule : SettingsRule} {fits : α → Prop}

theorem Check.of_cases (rule : SettingsRule) {result : Except SettingsRefusal α}
    {refusal : SettingsRefusal} (hfault : rule.fault given data source = .refused refusal)
    (h : (∃ a, result = .ok a ∧ rule.Holds given data ∧ fits a) ∨
      result = .error refusal ∧ ¬ rule.Holds given data) :
    Check given data source rule fits (result.mapError .refused) := by
  rcases h with ⟨a, rfl, hholds, hfits⟩ | ⟨rfl, hbroken⟩
  · exact .passes hholds hfits
  · show Check given data source rule fits (.error (.refused refusal))
    rw [← hfault]
    exact .fails hbroken

/-- After a check that passes the next one is made, and what all of them give is a verdict. -/
theorem Verdict.step {before after : List SettingsRule} {check : Except SettingsFault α}
    {next : α → Except SettingsFault Settings}
    (hcheck : Check given data source rule fits check)
    (hbefore : ∀ earlier ∈ before, earlier.Holds given data)
    (hall : SettingsRule.all = before ++ rule :: after)
    (hnext : ∀ a, fits a → (∀ earlier ∈ before ++ [rule], earlier.Holds given data) →
      Verdict given data source (next a)) :
    Verdict given data source (check >>= next) := by
  cases hcheck with
  | fails hbroken => exact .broken ⟨before, after, hall, hbefore, hbroken⟩
  | passes hholds hfits =>
    refine hnext _ hfits fun earlier hearlier => ?_
    rcases List.mem_append.mp hearlier with hearlier | hearlier
    · exact hbefore earlier hearlier
    · obtain rfl := List.mem_singleton.mp hearlier
      exact hholds

end

theorem mapError_bind {ε ε' α β : Type} (f : ε → ε') (x : Except ε α) (next : α → Except ε β) :
    (x >>= next).mapError f = x.mapError f >>= fun a => (next a).mapError f := by
  cases x <;> rfl

/-- The checks of a table as one chain. -/
theorem ofValue_table (given : Option String) (fields : Fields) (source : FilePath) :
    ofValue given (.table fields) source = (do
      let outline ← (Fields.tableAt fields "outline" source).mapError .refused
      let logging ← (Fields.tableAt fields "logging" source).mapError .refused
      let suffix ← (suffixOf outline source).mapError .refused
      let dirs ← (dirsOf outline source).mapError .refused
      let hooks ← (switchOf outline "show_hooks" source).mapError .refused
      let shared ← (switchOf outline "show_lets" source).mapError .refused
      let level ← Level.ofValue ((logging.get? "level").getD (.text "INFO")) source
      withOverride ⟨suffix, dirs, hooks, shared, level, some source⟩ given) := by
  simp only [ofValue, partsOf, mapError_bind, bind_assoc]
  rfl

theorem levelCheck (fields : Fields) (given : Option String) (source : FilePath) {logging : Fields}
    (hlogging : ∀ key, logging.get? key = (Value.table fields).partField? "logging" key) :
    Check given (.table fields) source .level
      (fun level => given.getD "" = "" →
        ∃ text, LevelText given (.table fields) text ∧ Text.upper text = level.name)
      (Level.ofValue ((logging.get? "level").getD (.text "INFO")) source) := by
  rw [hlogging]
  cases hentry : (Value.table fields).partField? "logging" "level" with
  | none =>
    have hinfo : Level.ofValue (.text "INFO") source = .ok .info := by rfl
    rw [Option.getD_none, hinfo]
    refine .passes ?_ fun hgiven => ⟨"INFO", .default hgiven hentry, by decide⟩
    simp [SettingsRule.Holds, hentry]
  | some v =>
    rw [Option.getD_some]
    obtain ⟨text, level, hlevel, hwritten, hupper⟩ | ⟨hlevel, hnames⟩ :=
      Level.ofValue_verdict v source
    · rw [hlevel]
      refine .passes ?_ fun hgiven => ⟨text, .file hgiven hentry hwritten, hupper⟩
      simpa [SettingsRule.Holds, hentry] using ⟨text, level, hwritten, hupper⟩
    · have hfault : SettingsRule.levelFault v source =
          SettingsRule.level.fault given (.table fields) source := by
        simp only [SettingsRule.fault, hentry, Option.getD_some]
      rw [hlevel, hfault]
      refine .fails ?_
      simpa [SettingsRule.Holds, hentry] using hnames

theorem verdict_ofValue (given : Option String) (data : Value) (source : FilePath) :
    Verdict given data source (ofValue given data source) := by
  cases data with
  | table fields =>
    rw [ofValue_table]
    have htable : ∀ earlier ∈ [SettingsRule.table], earlier.Holds given (.table fields) := by
      simp [SettingsRule.Holds, Value.IsTable]
    refine .step (.of_cases .outline rfl (tableAt_cases fields "outline" source)) htable rfl
      fun outline houtline hbefore => ?_
    refine .step (.of_cases .logging rfl (tableAt_cases fields "logging" source)) hbefore rfl
      fun logging hlogging hbefore => ?_
    have hsuffix := suffixOf_cases outline source
    have hdirs := dirsOf_cases outline source
    have hhooks := switchOf_cases outline "show_hooks" source
    have hlets := switchOf_cases outline "show_lets" source
    rw [houtline] at hsuffix hdirs hhooks hlets
    refine .step (.of_cases .suffix rfl hsuffix) hbefore rfl fun suffix hsuffix hbefore => ?_
    refine .step (.of_cases .dirs rfl hdirs) hbefore rfl fun dirs hdirs hbefore => ?_
    refine .step (.of_cases .hooks rfl hhooks) hbefore rfl fun hooks hhooks hbefore => ?_
    refine .step (.of_cases .lets rfl hlets) hbefore rfl fun lets hlets hbefore => ?_
    refine .step (levelCheck fields given source hlogging) hbefore rfl
      fun level hlevel hbefore => ?_
    let read : Settings := ⟨suffix, dirs, hooks, lets, level, some source⟩
    have hoverride : Check given (.table fields) source .override
        (ReadFrom · given (.table fields) source) (read.withOverride given) := by
      obtain ⟨last, hlast, hholds, hnames⟩ | ⟨hrefused, hbroken⟩ := withOverride_verdict read given
      · rw [hlast]
        refine .passes hholds ⟨hsuffix, hdirs, hhooks, hlets, ?_, rfl⟩
        rcases hnames with ⟨text, hgiven, htext, hupper⟩ | ⟨hgiven, rfl⟩
        · exact ⟨text, .override hgiven htext, hupper⟩
        · exact hlevel hgiven
      · rw [hrefused]
        exact .fails hbroken
    have hlast := Verdict.step hoverride hbefore rfl fun s hread hbefore =>
      .read (fun rule => hbefore rule rule.mem_all) hread
    rwa [show (fun s => Except.ok s) = pure from rfl, bind_pure] at hlast
  | _ => exact .broken ⟨[], _, rfl, nofun, by simp [SettingsRule.Holds, Value.IsTable]⟩

end Settings

end SpecSkeleton
