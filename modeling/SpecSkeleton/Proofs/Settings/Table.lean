import SpecSkeleton.Settings

/-!
# What comes of a table

A table either gives settings, which say where they come from, or is refused, or breaks the reading
because its level cannot be written (`outcome_ofValue`). The last happens only after every other
part has passed its check (`LevelBreaks`).
-/

namespace SpecSkeleton

variable {v : Value} {source : FilePath}

theorem Level.ofValue_of_long (hv : v.hasLongNumber = true) :
    Level.ofValue v source = .error (.longNumber .written) := by
  unfold ofValue Value.written
  rw [if_pos hv]
  rfl

/-- A level that can be written is looked up by its text in upper case. -/
theorem Level.ofValue_of_short (hv : v.hasLongNumber = false) :
    Level.ofValue v source =
      match Level.ofName? (Text.upper v.shown) with
      | some level => .ok level
      | none => .error (.refused (.unknownLevel source v)) := by
  have hwritten : v.written = .ok v.shown := if_neg (Bool.eq_false_iff.mp hv)
  have htext : v.written.mapError SettingsFault.longNumber = .ok v.shown := by
    rw [hwritten]
    rfl
  unfold ofValue
  rw [htext]
  rfl

theorem Level.ofValue_cases (hv : v.hasLongNumber = false) (source : FilePath) :
    (∃ level, Level.ofValue v source = .ok level) ∨
      Level.ofValue v source = .error (.refused (.unknownLevel source v)) := by
  rw [Level.ofValue_of_short hv]
  cases Level.ofName? (Text.upper v.shown) with
  | some level => exact .inl ⟨level, rfl⟩
  | none => exact .inr rfl

namespace Settings

variable {fields logging : Fields} {given : Settings}

/-- An override replaces the level or is refused; being a text, it can always be written. -/
theorem withOverride_cases (s : Settings) (override : Option String) :
    (∃ level, s.withOverride override = .ok { s with level }) ∨
      ∃ refusal, s.withOverride override = .error (.refused refusal) := by
  cases override with
  | none => exact .inl ⟨s.level, rfl⟩
  | some text =>
    simp only [withOverride]
    split
    · exact .inl ⟨s.level, rfl⟩
    · have hshort : (Value.text text).hasLongNumber = false := rfl
      rcases Level.ofValue_cases hshort levelVariable with ⟨level, hlevel⟩ | hlevel
      · rw [hlevel]
        exact .inl ⟨level, rfl⟩
      · rw [hlevel]
        exact .inr ⟨_, rfl⟩

theorem source_partsOf (hparts : partsOf fields source = .ok (given, logging)) :
    given.source = some source := by
  unfold partsOf at hparts
  simp only [bind, Except.bind] at hparts
  repeat' split at hparts
  all_goals cases hparts
  rfl

/-- Whether nothing is wrong with a table but a level that cannot be written. -/
def LevelBreaks (fields : Fields) (source : FilePath) : Prop :=
  ∃ given logging v, partsOf fields source = .ok (given, logging) ∧
    Fields.get? logging "level" = some v ∧ v.hasLongNumber = true

/-- What can come of a value that is to hold settings. -/
inductive Outcome (v : Value) (source : FilePath) : Except SettingsFault Settings → Prop where
  | read {s : Settings} (hsource : s.source = some source) : Outcome v source (.ok s)
  | refused {refusal : SettingsRefusal} : Outcome v source (.error (.refused refusal))
  | broken {fields : Fields} (hv : v = .table fields) (hbreaks : LevelBreaks fields source) :
      Outcome v source (.error (.longNumber .written))

theorem ofValue_of_refused {override : Option String} {refusal : SettingsRefusal}
    (hparts : partsOf fields source = .error refusal) :
    ofValue override (.table fields) source = .error (.refused refusal) := by
  simp only [ofValue, hparts]
  rfl

theorem ofValue_of_parts {override : Option String}
    (hparts : partsOf fields source = .ok (given, logging)) :
    ofValue override (.table fields) source =
      (Level.ofValue ((logging.get? "level").getD (.text default.level.name)) source).bind
        fun level => withOverride { given with level } override := by
  simp only [ofValue, hparts]
  rfl

theorem ofValue_of_levelBreaks (override : Option String) (hbreaks : LevelBreaks fields source) :
    ofValue override (.table fields) source = .error (.longNumber .written) := by
  obtain ⟨given, logging, v, hparts, hlevel, hlong⟩ := hbreaks
  rw [ofValue_of_parts hparts, hlevel, Option.getD_some, Level.ofValue_of_long hlong]
  rfl

theorem outcome_ofValue (override : Option String) (v : Value) (source : FilePath) :
    Outcome v source (ofValue override v source) := by
  cases v with
  | table fields =>
    cases hparts : partsOf fields source with
    | error refusal =>
      rw [ofValue_of_refused hparts]
      exact .refused
    | ok parts =>
      obtain ⟨given, logging⟩ := parts
      by_cases hbreaks : LevelBreaks fields source
      · rw [ofValue_of_levelBreaks override hbreaks]
        exact .broken rfl hbreaks
      · have hshort : ((Fields.get? logging "level").getD (.text default.level.name)).hasLongNumber =
            false := by
          cases hlevel : Fields.get? logging "level" with
          | none => rfl
          | some v =>
            rw [Bool.eq_false_iff]
            exact fun hlong => hbreaks ⟨given, logging, v, hparts, hlevel, hlong⟩
        rw [ofValue_of_parts hparts]
        rcases Level.ofValue_cases hshort source with ⟨level, hlevel⟩ | hlevel
        · rw [hlevel]
          show Outcome _ source (withOverride { given with level } override)
          rcases withOverride_cases { given with level } override with ⟨other, hother⟩ | ⟨_, hother⟩
          · rw [hother]
            have hsource := source_partsOf hparts
            exact .read hsource
          · rw [hother]
            exact .refused
        · rw [hlevel]
          exact .refused
  | _ => exact .refused

end Settings

end SpecSkeleton
