import SpecSkeleton.Proofs.Settings.Search

/-!
# What is no refusal

Faults of a settings file are refusals, which name the file. `load_breaks_iff` and
`search_breaks_iff` list the faults that are none: a path that cannot be looked up, bytes that are
no UTF-8, and numbers that are too long to be read or written. The level override adds nothing to
the list.
-/

namespace SpecSkeleton

/-- Whether a fault is a refusal of settings. -/
def SettingsFault.IsRefusal : SettingsFault → Prop
  | refused _ => True
  | _ => False

namespace SettingsHost

variable {h : SettingsHost} {start p d : FilePath} {fault : SettingsFault}

/-! ## One file -/

/-- The ways in which the table in a file cannot be had without being refused. -/
inductive TableBreaks (h : SettingsHost) (p : FilePath) : SettingsFault → Prop where
  | null (hnull : p.hasNull = true) : TableBreaks h p (.unreadable .nullInPath)
  | encoding {bytes : List UInt8} {fault : Text.Utf8.Fault} (hnull : p.hasNull = false)
      (hfile : h.fileAt? p = some bytes) (hdecode : Text.Utf8.decode bytes = .error fault) :
      TableBreaks h p (.unreadable (.encoding fault))
  | longNumber {text : String} {digits : Nat} (htext : h.readText p = .ok text)
      (hlong : h.readToml text = .error (.longNumber digits)) :
      TableBreaks h p (.longNumber (.read digits))

/-- The ways in which a settings file is at fault without being refused. -/
inductive LoadBreaks (h : SettingsHost) (p : FilePath) : SettingsFault → Prop where
  | table {fault : SettingsFault} (htable : h.TableBreaks p fault) : LoadBreaks h p fault
  | level {fields : Fields} (htable : h.readTable p = .ok fields)
      (hlevel : Settings.LevelBreaks fields p) : LoadBreaks h p (.longNumber .written)

/-- The ways in which a project file is at fault without being refused. -/
inductive ProjectBreaks (h : SettingsHost) (p : FilePath) : SettingsFault → Prop where
  | table {fault : SettingsFault} (htable : h.TableBreaks p fault) : ProjectBreaks h p fault
  | level {data tools fields : Fields} (htable : h.readTable p = .ok data)
      (htools : data.get? "tool" = some (.table tools))
      (hours : tools.get? toolKey = some (.table fields))
      (hlevel : Settings.LevelBreaks fields p) : ProjectBreaks h p (.longNumber .written)

theorem readText_error_cases {fault : ReadFault} (hread : h.readText p = .error fault) :
    (∃ trouble, fault = .file ⟨p.toString, trouble⟩) ∨ h.TableBreaks p (.unreadable fault) := by
  unfold Surroundings.readText at hread
  split at hread
  · next hnull =>
    cases hread
    exact .inr (.null hnull)
  · next hnull =>
    split at hread
    · cases hread
      exact .inl ⟨_, rfl⟩
    · cases hread
      exact .inl ⟨_, rfl⟩
    · next bytes hfind =>
      split at hread
      · next fault hdecode =>
        cases hread
        have hfile : h.fileAt? p = some bytes := Surroundings.fileAt?_eq_some_iff.mpr hfind
        exact .inr (.encoding (Bool.eq_false_iff.mpr hnull) hfile hdecode)
      · cases hread

theorem readTable_breaks_iff :
    h.readTable p = .error fault ∧ ¬ fault.IsRefusal ↔ h.TableBreaks p fault := by
  constructor
  · rintro ⟨hread, hrefusal⟩
    unfold readTable at hread
    split at hread
    · cases hread
      exact absurd trivial hrefusal
    · next fault hfile htext =>
      cases hread
      rcases readText_error_cases htext with ⟨trouble, rfl⟩ | hbreaks
      · exact absurd rfl (hfile _)
      · exact hbreaks
    · next text htext =>
      split at hread
      · cases hread
      · cases hread
        exact absurd trivial hrefusal
      · next digits hlong =>
        cases hread
        exact .longNumber htext hlong
  · intro hbreaks
    unfold readTable
    cases hbreaks with
    | null hnull =>
      have htext : h.readText p = .error .nullInPath := if_pos hnull
      rw [htext]
      exact ⟨rfl, id⟩
    | @encoding bytes fault hnull hfile hdecode =>
      have htext : h.readText p = .error (.encoding fault) := by
        rw [Surroundings.readText_of_file hnull hfile, hdecode]
      rw [htext]
      exact ⟨rfl, id⟩
    | longNumber htext hlong =>
      rw [htext]
      refine ⟨?_, id⟩
      simp only [hlong]

theorem settingsOf_breaks_iff {v : Value} :
    h.settingsOf v p = .error fault ∧ ¬ fault.IsRefusal ↔
      ∃ fields, v = .table fields ∧ Settings.LevelBreaks fields p ∧
        fault = .longNumber .written := by
  constructor
  · rintro ⟨hv, hrefusal⟩
    have houtcome := Settings.outcome_ofValue h.override v p
    unfold settingsOf at hv
    rw [hv] at houtcome
    cases houtcome with
    | refused => exact absurd trivial hrefusal
    | @broken fields htable hbreaks => exact ⟨fields, htable, hbreaks, rfl⟩
  · rintro ⟨fields, rfl, hbreaks, rfl⟩
    exact ⟨Settings.ofValue_of_levelBreaks h.override hbreaks, id⟩

theorem TableBreaks.eq_error (hbreaks : h.TableBreaks p fault) :
    h.readTable p = .error fault ∧ ¬ fault.IsRefusal :=
  readTable_breaks_iff.mpr hbreaks

theorem not_tableBreaks {data : Fields} (htable : h.readTable p = .ok data) :
    ¬ h.TableBreaks p fault := by
  intro hbreaks
  have herror := hbreaks.eq_error.1
  rw [htable] at herror
  cases herror

theorem load_breaks_iff :
    h.load p = .error fault ∧ ¬ fault.IsRefusal ↔ h.LoadBreaks p fault := by
  cases htable : h.readTable p with
  | error other =>
    rw [load_eq_error htable]
    constructor
    · rintro ⟨heq, hrefusal⟩
      cases heq
      exact .table (readTable_breaks_iff.mp ⟨htable, hrefusal⟩)
    · intro hbreaks
      cases hbreaks with
      | table hbreaks =>
        obtain ⟨hsame, hrefusal⟩ := hbreaks.eq_error
        cases htable.symm.trans hsame
        exact ⟨rfl, hrefusal⟩
      | level hok hlevel => cases htable.symm.trans hok
  | ok data =>
    rw [load_eq htable, settingsOf_breaks_iff]
    constructor
    · rintro ⟨fields, heq, hlevel, rfl⟩
      cases heq
      exact .level htable hlevel
    · intro hbreaks
      cases hbreaks with
      | table hbreaks => exact absurd hbreaks (not_tableBreaks htable)
      | level hok hlevel =>
        cases htable.symm.trans hok
        exact ⟨data, rfl, hlevel, rfl⟩

theorem loadProject_breaks_iff :
    h.loadProject p = .error fault ∧ ¬ fault.IsRefusal ↔ h.ProjectBreaks p fault := by
  constructor
  · rintro ⟨hload, hrefusal⟩
    have hsaid : h.ProjectSays p (.error fault) := projectSays_iff.mpr hload
    generalize hr : Except.error fault = r at hsaid
    cases hsaid with
    | faulty htable =>
      cases hr
      exact .table (readTable_breaks_iff.mp ⟨htable, hrefusal⟩)
    | noTools htable hget hv =>
      cases hr
      exact absurd trivial hrefusal
    | ours htable hget hours =>
      obtain ⟨fields, rfl, hlevel, rfl⟩ := settingsOf_breaks_iff.mp ⟨hr.symm, hrefusal⟩
      exact .level htable hget hours hlevel
  · intro hbreaks
    cases hbreaks with
    | table hbreaks =>
      obtain ⟨htable, hrefusal⟩ := hbreaks.eq_error
      exact ⟨loadProject_eq_error htable, hrefusal⟩
    | level htable htools hours hlevel =>
      obtain ⟨hsettings, hrefusal⟩ := settingsOf_breaks_iff.mpr ⟨_, rfl, hlevel, rfl⟩
      have hsaid := ProjectSays.ours htable htools hours
      rw [hsettings] at hsaid
      exact ⟨projectSays_iff.mp hsaid, hrefusal⟩

/-! ## A search -/

/-- Whether a search goes on from a directory to those above it. -/
def Passes (h : SettingsHost) (d : FilePath) : Prop :=
  h.lookFault? (d.child settingsName) = none ∧ h.Silent d

/-- The ways in which a directory ends a search without settings and without a refusal. -/
inductive DirectoryBreaks (h : SettingsHost) (d : FilePath) : SettingsFault → Prop where
  | look {fault : ReadFault} (hlook : h.lookFault? (d.child settingsName) = some fault) :
      DirectoryBreaks h d (.unreadable fault)
  | own {fault : SettingsFault} (hlook : h.lookFault? (d.child settingsName) = none)
      (hown : h.isFile (d.child settingsName) = true)
      (hload : h.LoadBreaks (d.child settingsName) fault) : DirectoryBreaks h d fault
  | project {fault : SettingsFault} (hlook : h.lookFault? (d.child settingsName) = none)
      (hown : h.isFile (d.child settingsName) = false)
      (hproject : h.isFile (d.child projectName) = true)
      (hload : h.ProjectBreaks (d.child projectName) fault) : DirectoryBreaks h d fault

/-- The ways in which a search ends without settings and without a refusal. -/
inductive SearchBreaks (h : SettingsHost) (start : FilePath) : SettingsFault → Prop where
  | start {fault : ReadFault} (hstart : h.startFault? start = some fault) :
      SearchBreaks h start (.unreadable fault)
  | directory {below : List FilePath} {d : FilePath} {above : List FilePath} {fault : SettingsFault}
      (hstart : h.startFault? start = none) (hpath : h.searchPath start = below ++ d :: above)
      (hbelow : ∀ b ∈ below, h.Passes b) (hd : h.DirectoryBreaks d fault) :
      SearchBreaks h start fault

theorem verdict?_eq_fault {fault : ReadFault}
    (hlook : h.lookFault? (d.child settingsName) = some fault) :
    h.verdict? d = some (.error (.unreadable fault)) := by
  unfold verdict?
  simp only [hlook]

theorem verdict?_eq_none_iff : h.verdict? d = none ↔ h.Passes d := by
  constructor
  · intro hverdict
    have hlook : h.lookFault? (d.child settingsName) = none := by
      cases hlook : h.lookFault? (d.child settingsName) with
      | none => rfl
      | some fault => cases hverdict.symm.trans (verdict?_eq_fault hlook)
    refine ⟨hlook, fun file r hdecides => ?_⟩
    rw [(verdict?_eq_some_iff hlook).mpr ⟨file, hdecides⟩] at hverdict
    cases hverdict
  · rintro ⟨hlook, hsilent⟩
    exact verdict?_eq_none hlook hsilent

theorem verdict?_breaks_iff :
    h.verdict? d = some (.error fault) ∧ ¬ fault.IsRefusal ↔ h.DirectoryBreaks d fault := by
  constructor
  · rintro ⟨hverdict, hrefusal⟩
    cases hlook : h.lookFault? (d.child settingsName) with
    | some other =>
      cases (verdict?_eq_fault hlook).symm.trans hverdict
      exact .look hlook
    | none =>
      obtain ⟨file, hdecides⟩ := (verdict?_eq_some_iff hlook).mp hverdict
      generalize hr : Except.error fault = r at hdecides
      cases hdecides with
      | own hown => exact .own hlook hown (load_breaks_iff.mp ⟨hr.symm, hrefusal⟩)
      | project hown hproject hsaid =>
        subst hr
        exact .project hlook hown hproject
          (loadProject_breaks_iff.mp ⟨projectSays_iff.mp hsaid, hrefusal⟩)
  · intro hbreaks
    cases hbreaks with
    | look hlook => exact ⟨verdict?_eq_fault hlook, id⟩
    | own hlook hown hload =>
      obtain ⟨hload, hrefusal⟩ := load_breaks_iff.mpr hload
      have hdecides := Decides.own hown
      rw [hload] at hdecides
      exact ⟨(verdict?_eq_some_iff hlook).mpr ⟨_, hdecides⟩, hrefusal⟩
    | project hlook hown hproject hload =>
      obtain ⟨hload, hrefusal⟩ := loadProject_breaks_iff.mpr hload
      have hsaid : h.ProjectSays (d.child projectName) (.error fault) := projectSays_iff.mpr hload
      have hdecides := Decides.project hown hproject hsaid
      exact ⟨(verdict?_eq_some_iff hlook).mpr ⟨_, hdecides⟩, hrefusal⟩

theorem defaults_eq_error (hdefaults : h.defaults = .error fault) : fault.IsRefusal := by
  unfold defaults at hdefaults
  rcases Settings.withOverride_cases .default h.override with ⟨level, hlevel⟩ | ⟨refusal, hlevel⟩
  · rw [hlevel] at hdefaults
    cases hdefaults
  · rw [hlevel] at hdefaults
    cases hdefaults
    trivial

theorem search_breaks_iff :
    h.search start = .error fault ∧ ¬ fault.IsRefusal ↔ h.SearchBreaks start fault := by
  unfold search
  cases hstart : h.startFault? start with
  | some other =>
    constructor
    · rintro ⟨heq, -⟩
      cases heq
      exact .start hstart
    · intro hbreaks
      cases hbreaks with
      | start hsame =>
        cases hstart.symm.trans hsame
        exact ⟨rfl, id⟩
      | directory hnone hpath hbelow hd => cases hstart.symm.trans hnone
  | none =>
    constructor
    · rintro ⟨heq, hrefusal⟩
      cases hfirst : (h.searchPath start).findSome? h.verdict? with
      | none =>
        rw [hfirst] at heq
        exact absurd (defaults_eq_error heq) hrefusal
      | some r =>
        rw [hfirst] at heq
        cases heq
        obtain ⟨below, d, above, hpath, hd, hbelow⟩ := List.findSome?_eq_some_iff.mp hfirst
        exact .directory hstart hpath (fun b hb => verdict?_eq_none_iff.mp (hbelow b hb))
          (verdict?_breaks_iff.mp ⟨hd, hrefusal⟩)
    · intro hbreaks
      cases hbreaks with
      | start hsame => cases hstart.symm.trans hsame
      | directory hnone hpath hbelow hd =>
        obtain ⟨hverdict, hrefusal⟩ := verdict?_breaks_iff.mpr hd
        have hfirst : (h.searchPath start).findSome? h.verdict? = some (.error fault) :=
          List.findSome?_eq_some_iff.mpr
            ⟨_, _, _, hpath, hverdict, fun b hb => verdict?_eq_none_iff.mpr (hbelow b hb)⟩
        rw [hfirst]
        exact ⟨rfl, hrefusal⟩

end SettingsHost

end SpecSkeleton
