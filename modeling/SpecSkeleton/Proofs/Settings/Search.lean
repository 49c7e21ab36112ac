import SpecSkeleton.Proofs.File.Upward
import SpecSkeleton.Proofs.Settings.Table
import SpecSkeleton.Proofs.Text.Utf8
import SpecSkeleton.Settings.Search

/-!
# Which file decides

A search for settings asks one directory after the other, and the first that has a say decides
(`search_decided`). `Decides` lists the ways to have a say, each with the file that has it and the
result of the search then; a directory without is silent. The search looks at nothing outside the
deciding directory and at no project file beside a settings file, so that these can change in any
way (`Unnoticed`).
-/

namespace SpecSkeleton

/-! ## Having a say -/

namespace SettingsHost

variable {h : SettingsHost} {tree : FileTree} {start p q d file : FilePath}
  {below above : List FilePath} {r : Except SettingsFault Settings}

/-- The ways in which a project file has a say, with the result: it cannot be read or parsed, its
tools are no table, or the table of the tool is among them. -/
inductive ProjectSays (h : SettingsHost) (p : FilePath) : Except SettingsFault Settings → Prop where
  | faulty {fault : SettingsFault} (htable : h.readTable p = .error fault) :
      ProjectSays h p (.error fault)
  | noTools {data : Fields} {v : Value} (htable : h.readTable p = .ok data)
      (hget : data.get? "tool" = some v) (hv : ∀ tools, v ≠ .table tools) :
      ProjectSays h p (.error (.refused (.noTable p "tool")))
  | ours {data tools : Fields} {v : Value} (htable : h.readTable p = .ok data)
      (hget : data.get? "tool" = some (.table tools)) (hours : tools.get? toolKey = some v) :
      ProjectSays h p (h.settingsOf v p)

/-- The ways in which a directory decides a search, with the file that does it and the result. -/
inductive Decides (h : SettingsHost) (d : FilePath) :
    FilePath → Except SettingsFault Settings → Prop where
  | own (hown : h.isFile (d.child settingsName) = true) :
      Decides h d (d.child settingsName) (h.load (d.child settingsName))
  | project {r : Except SettingsFault Settings} (hown : h.isFile (d.child settingsName) = false)
      (hproject : h.isFile (d.child projectName) = true)
      (hsaid : h.ProjectSays (d.child projectName) r) : Decides h d (d.child projectName) r

/-- Whether a directory leaves the decision to those above it. -/
def Silent (h : SettingsHost) (d : FilePath) : Prop :=
  ∀ file r, ¬ h.Decides d file r

/-- Whether every path that a search asks about can be looked up. -/
structure Looks (h : SettingsHost) (start : FilePath) : Prop where
  start_eq : h.startFault? start = none
  settings_eq : ∀ d ∈ h.searchPath start, h.lookFault? (d.child settingsName) = none

theorem loadProject_eq_error {fault : SettingsFault} (htable : h.readTable p = .error fault) :
    h.loadProject p = .error fault := by
  unfold loadProject
  rw [htable]
  rfl

theorem loadProject_eq {data : Fields} (htable : h.readTable p = .ok data) :
    h.loadProject p =
      match data.get? "tool" with
      | none => .ok none
      | some (.table tools) =>
        match Fields.get? tools toolKey with
        | none => .ok none
        | some v => (h.settingsOf v p).map some
      | some _ => .error (.refused (.noTable p "tool")) := by
  unfold loadProject Fields.tableAt
  rw [htable]
  simp only [bind, Except.bind]
  cases data.get? "tool" with
  | none => rfl
  | some v =>
    cases v with
    | table tools =>
      dsimp only
      cases hours : Fields.get? tools toolKey with
      | none =>
        show (match Fields.get? tools toolKey with | none => _ | some v => _) = _
        rw [hours]
        rfl
      | some v =>
        show (match Fields.get? tools toolKey with | none => _ | some v => _) = _
        rw [hours]
        cases h.settingsOf v p <;> rfl
    | _ => rfl

theorem projectSays_iff : h.ProjectSays p r ↔ h.loadProject p = r.map some := by
  constructor
  · intro hsaid
    cases hsaid with
    | faulty htable => exact loadProject_eq_error htable
    | @noTools data v htable hget hv =>
      rw [loadProject_eq htable, hget]
      cases v with
      | table tools => exact absurd rfl (hv tools)
      | _ => rfl
    | ours htable hget hours =>
      rw [loadProject_eq htable, hget]
      simp only [hours]
  · intro hload
    cases htable : h.readTable p with
    | error fault =>
      rw [loadProject_eq_error htable] at hload
      cases r <;> cases hload
      exact .faulty htable
    | ok data =>
      rw [loadProject_eq htable] at hload
      split at hload
      · cases r <;> cases hload
      · next tools hget =>
        split at hload
        · cases r <;> cases hload
        · next v hours =>
          have hr : h.settingsOf v p = r := by
            cases hv : h.settingsOf v p <;> rw [hv] at hload <;> cases r <;> cases hload <;> rfl
          exact hr ▸ .ours htable hget hours
      · next v hv hget =>
        cases r <;> cases hload
        exact .noTools htable hget hv

/-- A directory that can be looked into has a verdict just if it decides. -/
theorem verdict?_eq_some_iff (hlook : h.lookFault? (d.child settingsName) = none) :
    h.verdict? d = some r ↔ ∃ file, h.Decides d file r := by
  unfold verdict?
  simp only [hlook]
  constructor
  · intro hverdict
    split at hverdict
    · next hown =>
      cases hverdict
      exact ⟨_, .own hown⟩
    · next hown =>
      split at hverdict
      · next hproject =>
        refine ⟨_, .project (Bool.eq_false_iff.mpr hown) hproject (projectSays_iff.mpr ?_)⟩
        split at hverdict <;> cases hverdict <;> assumption
      · cases hverdict
  · rintro ⟨file, hdecides⟩
    cases hdecides with
    | own hown => rw [if_pos hown]
    | project hown hproject hsaid =>
      rw [if_neg (Bool.eq_false_iff.mp hown), if_pos hproject, projectSays_iff.mp hsaid]
      cases r <;> rfl

theorem verdict?_eq_none (hlook : h.lookFault? (d.child settingsName) = none)
    (hsilent : h.Silent d) : h.verdict? d = none := by
  cases hverdict : h.verdict? d with
  | none => rfl
  | some r =>
    obtain ⟨file, hdecides⟩ := (verdict?_eq_some_iff hlook).mp hverdict
    exact absurd hdecides (hsilent file r)

/-! ## The file and the settings -/

theorem Decides.isFile_eq (hdecides : h.Decides d file r) :
    h.isFile file = true ∧ (file = d.child settingsName ∨ file = d.child projectName) := by
  cases hdecides with
  | own hown => exact ⟨hown, .inl rfl⟩
  | project hown hproject hsaid => exact ⟨hproject, .inr rfl⟩

theorem source_settingsOf {v : Value} {settings : Settings}
    (hv : h.settingsOf v p = .ok settings) : settings.source = some p := by
  have houtcome := Settings.outcome_ofValue h.override v p
  unfold settingsOf at hv
  rw [hv] at houtcome
  cases houtcome with
  | read hsource => exact hsource

theorem load_eq {data : Fields} (htable : h.readTable p = .ok data) :
    h.load p = h.settingsOf (.table data) p := by
  unfold load
  rw [htable]
  rfl

theorem load_eq_error {fault : SettingsFault} (htable : h.readTable p = .error fault) :
    h.load p = .error fault := by
  unfold load
  rw [htable]
  rfl

theorem Decides.source_eq {settings : Settings} (hdecides : h.Decides d file r)
    (hr : r = .ok settings) : settings.source = some file := by
  cases hdecides with
  | own hown =>
    cases htable : h.readTable (d.child settingsName) with
    | error fault =>
      rw [load_eq_error htable] at hr
      cases hr
    | ok data =>
      rw [load_eq htable] at hr
      exact source_settingsOf hr
  | project hown hproject hsaid =>
    cases hsaid with
    | faulty htable => cases hr
    | noTools htable hget hv => cases hr
    | ours htable hget hours => exact source_settingsOf hr

theorem silent_of_no_file (hown : h.isFile (d.child settingsName) = false)
    (hproject : h.isFile (d.child projectName) = false) : h.Silent d := by
  intro file r hdecides
  obtain ⟨hfile, rfl | rfl⟩ := hdecides.isFile_eq
  · exact absurd hfile (Bool.eq_false_iff.mp hown)
  · exact absurd hfile (Bool.eq_false_iff.mp hproject)

/-- Below a file there is nothing to decide with. -/
theorem silent_of_isFile (hfile : h.isFile d = true) : h.Silent d := by
  have hnone : ∀ name, h.isFile (d.child name) = false := by
    intro name
    rw [Surroundings.isFile_eq, Surroundings.fileAt?_child hfile]
    rfl
  exact silent_of_no_file (hnone settingsName) (hnone projectName)

/-! ## The first directory with a say -/

theorem search_of_first (hlooks : h.Looks start) (hpath : h.searchPath start = below ++ d :: above)
    (hsilent : ∀ b ∈ below, h.Silent b) (hdecides : h.Decides d file r) : h.search start = r := by
  have hlook : ∀ b ∈ below ++ d :: above, h.lookFault? (b.child settingsName) = none :=
    hpath ▸ hlooks.settings_eq
  have hbelow : below.findSome? h.verdict? = none := by
    rw [List.findSome?_eq_none_iff]
    intro b hb
    exact verdict?_eq_none (hlook b (List.mem_append_left _ hb)) (hsilent b hb)
  have hd : h.verdict? d = some r :=
    (verdict?_eq_some_iff (hlook d (List.mem_append_right _ List.mem_cons_self))).mpr
      ⟨file, hdecides⟩
  unfold search
  rw [hlooks.start_eq, hpath, List.findSome?_append, hbelow, List.findSome?_cons, hd]
  rfl

theorem search_of_silent (hlooks : h.Looks start)
    (hsilent : ∀ d ∈ h.searchPath start, h.Silent d) : h.search start = h.defaults := by
  have hnone : (h.searchPath start).findSome? h.verdict? = none := by
    rw [List.findSome?_eq_none_iff]
    intro d hd
    exact verdict?_eq_none (hlooks.settings_eq d hd) (hsilent d hd)
  unfold search
  rw [hlooks.start_eq, hnone]
  rfl

/-- A start that is a file is left out of the way up, where it would be silent. -/
theorem searchPath_cases (h : SettingsHost) (start : FilePath) :
    (start.resolve h.directory).selfAndParents = h.searchPath start ∨
      h.Silent (start.resolve h.directory) ∧
        (start.resolve h.directory).selfAndParents =
          start.resolve h.directory :: h.searchPath start := by
  unfold searchPath
  generalize start.resolve h.directory = q
  dsimp only
  split
  · next hfile =>
    by_cases hnames : q.names = []
    · left
      have hparent : q.parent = q := by
        cases q
        simp_all [FilePath.parent]
      rw [hparent]
    · exact .inr ⟨silent_of_isFile hfile, FilePath.selfAndParents_cons hnames⟩
  · exact .inl rfl

theorem upward_of_searchPath (hpath : h.searchPath start = below ++ d :: above)
    (hsilent : ∀ b ∈ below, h.Silent b) :
    ∃ below', (start.resolve h.directory).selfAndParents = below' ++ d :: above ∧
      ∀ b ∈ below', h.Silent b := by
  rcases searchPath_cases h start with hall | ⟨hstart, hrest⟩
  · exact ⟨below, hall.trans hpath, hsilent⟩
  · refine ⟨start.resolve h.directory :: below, by rw [hrest, hpath]; rfl, ?_⟩
    intro b hb
    rcases List.mem_cons.mp hb with rfl | hb
    · exact hstart
    · exact hsilent b hb

/-- It makes no difference whether the start is a file. -/
theorem search_of_upward (hlooks : h.Looks start)
    (hupward : (start.resolve h.directory).selfAndParents = below ++ d :: above)
    (hsilent : ∀ b ∈ below, h.Silent b) (hdecides : h.Decides d file r) : h.search start = r := by
  rcases searchPath_cases h start with hall | ⟨hstart, hrest⟩
  · exact search_of_first hlooks (hall.symm.trans hupward) hsilent hdecides
  · rw [hrest] at hupward
    cases below with
    | nil =>
      cases hupward
      exact absurd hdecides (hstart file r)
    | cons b below =>
      have hpath : h.searchPath start = below ++ d :: above := (List.cons.inj hupward).2
      exact search_of_first hlooks hpath (fun b hb => hsilent b (List.mem_cons_of_mem _ hb)) hdecides

/-! ## Other trees -/

/-- The same search over another file tree. -/
def withTree (h : SettingsHost) (tree : FileTree) : SettingsHost :=
  { h with tree }

/-- Whether another tree has the same files from a directory downward but for one that a search
decided by a file there does not look at: the project file beside a settings file. -/
def Unnoticed (h : SettingsHost) (tree : FileTree) (d file : FilePath) : Prop :=
  ∀ p : FilePath, p.IsPlain → d.names <+: p.names →
    (h.withTree tree).fileAt? p = h.fileAt? p ∨
      file = d.child settingsName ∧ p = d.child projectName

theorem isFile_withTree (hsame : (h.withTree tree).fileAt? p = h.fileAt? p) :
    (h.withTree tree).isFile p = h.isFile p := by
  rw [Surroundings.isFile_eq, Surroundings.isFile_eq, hsame]

theorem find_withTree (hsame : (h.withTree tree).fileAt? p = h.fileAt? p)
    (hfile : h.isFile p = true) : (h.withTree tree).find p = h.find p := by
  rw [Surroundings.isFile_eq] at hfile
  obtain ⟨bytes, hbytes⟩ := Option.isSome_iff_exists.mp hfile
  rw [Surroundings.fileAt?_eq_some_iff.mp hbytes]
  exact Surroundings.fileAt?_eq_some_iff.mp (hsame.trans hbytes)

theorem readTable_withTree (hsame : (h.withTree tree).fileAt? p = h.fileAt? p)
    (hfile : h.isFile p = true) : (h.withTree tree).readTable p = h.readTable p := by
  unfold readTable Surroundings.readText
  rw [find_withTree hsame hfile]
  rfl

theorem ProjectSays.withTree (hsaid : h.ProjectSays p r)
    (htable : (h.withTree tree).readTable p = h.readTable p) :
    (h.withTree tree).ProjectSays p r := by
  cases hsaid with
  | faulty hread => exact .faulty (htable.trans hread)
  | noTools hread hget hv => exact .noTools (htable.trans hread) hget hv
  | ours hread hget hours => exact .ours (htable.trans hread) hget hours

theorem Decides.withTree (hdecides : h.Decides d file r)
    (hown : (h.withTree tree).fileAt? (d.child settingsName) = h.fileAt? (d.child settingsName))
    (hproject : file = d.child projectName →
      (h.withTree tree).fileAt? (d.child projectName) = h.fileAt? (d.child projectName)) :
    (h.withTree tree).Decides d file r := by
  cases hdecides with
  | own hfile =>
    have hload : (h.withTree tree).load (d.child settingsName) = h.load (d.child settingsName) := by
      unfold load
      rw [readTable_withTree hown hfile]
      rfl
    rw [← hload]
    exact .own ((isFile_withTree hown).trans hfile)
  | project hnone hfile hsaid =>
    have hproject := hproject rfl
    have htable := readTable_withTree hproject hfile
    exact .project ((isFile_withTree hown).trans hnone) ((isFile_withTree hproject).trans hfile)
      (hsaid.withTree htable)

theorem Silent.withTree (hsilent : h.Silent d)
    (hown : (h.withTree tree).fileAt? (d.child settingsName) = h.fileAt? (d.child settingsName))
    (hproject :
      (h.withTree tree).fileAt? (d.child projectName) = h.fileAt? (d.child projectName)) :
    (h.withTree tree).Silent d := by
  intro file r hdecides
  have hback : ((h.withTree tree).withTree h.tree).Decides d file r :=
    hdecides.withTree hown.symm fun _ => hproject.symm
  exact hsilent file r hback

theorem settingsName_ne_projectName : settingsName ≠ projectName := by
  decide

theorem search_withTree (hlooks : (h.withTree tree).Looks start)
    (hpath : h.searchPath start = below ++ d :: above) (hsilent : ∀ b ∈ below, h.Silent b)
    (hdecides : h.Decides d file r) (hunnoticed : h.Unnoticed tree d file) :
    (h.withTree tree).search start = r := by
  obtain ⟨below, hupward, hsilent⟩ := upward_of_searchPath hpath hsilent
  have hplain : ∀ b ∈ below ++ d :: above, b.IsPlain := fun b hb =>
    (FilePath.isPlain_resolve start h.directory).above (hupward ▸ hb)
  have hpairwise := hupward ▸ FilePath.selfAndParents_pairwise (start.resolve h.directory)
  have hbelow : ∀ b ∈ below, d.names <+: b.names ∧ d.names.length < b.names.length := fun b hb =>
    (List.pairwise_append.mp hpairwise).2.2 b hb d List.mem_cons_self
  -- The search asks nothing but files in the directories up to the deciding one.
  have hsame : ∀ b ∈ below ++ d :: above, d.names <+: b.names → ∀ name, name ≠ ".." →
      ¬ (file = d.child settingsName ∧ b.child name = d.child projectName) →
      (h.withTree tree).fileAt? (b.child name) = h.fileAt? (b.child name) := by
    intro b hb hwithin name hdots hnot
    have hchild : d.names <+: (b.child name).names := hwithin.trans (List.prefix_append _ _)
    rcases hunnoticed _ ((hplain b hb).child hdots) hchild with hsame | hproject
    · exact hsame
    · exact absurd hproject hnot
  have hd : d ∈ below ++ d :: above := List.mem_append_right _ List.mem_cons_self
  refine search_of_upward hlooks hupward (fun b hb => ?_) (hdecides.withTree ?_ fun hfile => ?_)
  · obtain ⟨hwithin, hlonger⟩ := hbelow b hb
    have hchild : ∀ name, b.child name ≠ d.child projectName := by
      intro name heq
      rw [(FilePath.child_inj.mp heq).1] at hlonger
      exact Nat.lt_irrefl _ hlonger
    have hmem : b ∈ below ++ d :: above := List.mem_append_left _ hb
    exact (hsilent b hb).withTree (hsame b hmem hwithin _ (by decide) fun hnot => hchild _ hnot.2)
      (hsame b hmem hwithin _ (by decide) fun hnot => hchild _ hnot.2)
  · refine hsame d hd List.prefix_rfl _ (by decide) fun hnot => ?_
    exact settingsName_ne_projectName (FilePath.child_inj.mp hnot.2).2
  · refine hsame d hd List.prefix_rfl _ (by decide) fun hnot => ?_
    exact settingsName_ne_projectName (FilePath.child_inj.mp (hnot.1.symm.trans hfile)).2

/-- A start that can be looked up leads upward to the first directory that decides, and the result
is that of the file found there, whatever lies outside this directory and whatever the project file
is beside a settings file. Where no directory decides, the defaults hold. -/
theorem search_decided (h : SettingsHost) (start : FilePath) (hlooks : h.Looks start) :
    (∀ (below : List FilePath) (d : FilePath) (above : List FilePath) (file : FilePath)
      (r : Except SettingsFault Settings), h.searchPath start = below ++ d :: above →
      (∀ b ∈ below, h.Silent b) → h.Decides d file r →
        h.search start = r ∧ (∀ settings, r = .ok settings → settings.source = some file) ∧
          ∀ tree, (h.withTree tree).Looks start → h.Unnoticed tree d file →
            (h.withTree tree).search start = r) ∧
      ((∀ d ∈ h.searchPath start, h.Silent d) → h.search start = h.defaults) := by
  refine ⟨fun below d above file r hpath hsilent hdecides => ⟨?_, ?_, ?_⟩, ?_⟩
  · exact search_of_first hlooks hpath hsilent hdecides
  · exact fun settings hr => hdecides.source_eq hr
  · exact fun tree hlooks' hunnoticed => search_withTree hlooks' hpath hsilent hdecides hunnoticed
  · exact search_of_silent hlooks

/-- The settings file of a directory is found from the directory below, whose project file has
nothing for the tool, and what stands beside it and above it can change. -/
theorem search_decided_shadowed :
    let file (text : String) : FileTree := .file (Text.Utf8.encode text.toList)
    let folder (beside : String) : FileTree := .directory [
      ("rspec_outline.toml", file "[outline]\nshow_lets = false\n"),
      ("pyproject.toml", file beside),
      ("b", .directory [("pyproject.toml", file "[tool.other]\n")])]
    let tree (beside above : String) : FileTree :=
      .directory [("a", folder beside), ("pyproject.toml", file above)]
    let host (beside above : String) : SettingsHost :=
      ⟨⟨tree beside above, ⟨.slash, ["a"]⟩⟩, some "debug", Toml.read⟩
    let found : Settings :=
      { showLets := false, level := .debug, source := some ⟨.slash, ["a", "rspec_outline.toml"]⟩ }
    (∀ beside above, (host beside above).Looks (.ofString "b")) ∧
      (host "" "").Unnoticed (tree "[" "tool = 1") ⟨.slash, ["a"]⟩
        ⟨.slash, ["a", "rspec_outline.toml"]⟩ ∧
      (host "" "").search (.ofString "b") = .ok found ∧
      (host "[" "tool = 1").search (.ofString "b") = .ok found := by
  intro file folder tree host found
  have hpath : ∀ beside above, (host beside above).searchPath (.ofString "b") =
      [⟨.slash, ["a", "b"]⟩] ++ ⟨.slash, ["a"]⟩ :: [⟨.slash, []⟩] := fun _ _ => rfl
  have hlooks : ∀ beside above, (host beside above).Looks (.ofString "b") := by
    intro beside above
    refine ⟨?_, ?_⟩
    · have hstart : FilePath.ofString "b" = ⟨.relative, ["b"]⟩ := by decide
      have hnull : (FilePath.mk .relative ["b"]).hasNull = false := by simp [FilePath.hasNull]
      unfold startFault?
      rw [hstart, hnull]
      rfl
    · rw [hpath]
      intro d hd
      simp only [List.cons_append, List.nil_append, List.mem_cons, List.not_mem_nil, or_false] at hd
      rcases hd with rfl | rfl | rfl <;> rfl
  have hok : ∀ {α : Type} {x : Except SettingsFault α} {a : α}, x.toOption = some a → x = .ok a := by
    intro α x a hx
    cases x <;> cases hx
    rfl
  have htext : ∀ p text, p.hasNull = false → (host "" "").find p = .ok (file text) →
      Text.foldNewlines text.toList = text.toList → (host "" "").readText p = .ok text := by
    intro p text hnull hfind hfold
    rw [Surroundings.readText_of_file hnull (Surroundings.fileAt?_eq_some_iff.mpr hfind),
      Text.Utf8.decode_eq_ok_iff.mpr rfl]
    simp only [hfold, String.ofList_toList]
  have hload : (host "" "").load ⟨.slash, ["a", "rspec_outline.toml"]⟩ = .ok found := by
    refine hok ?_
    unfold load readTable
    rw [htext _ "[outline]\nshow_lets = false\n" (by simp [FilePath.hasNull]) rfl (by decide)]
    decide +kernel
  have hother : (host "" "").loadProject ⟨.slash, ["a", "b", "pyproject.toml"]⟩ = .ok none := by
    refine hok ?_
    unfold loadProject readTable
    rw [htext _ "[tool.other]\n" (by simp [FilePath.hasNull]) rfl (by decide)]
    decide +kernel
  have hsilent : ∀ b ∈ [(⟨.slash, ["a", "b"]⟩ : FilePath)], (host "" "").Silent b := by
    intro b hb file r hdecides
    cases List.mem_singleton.mp hb
    cases hdecides with
    | own hown => cases hown
    | project hown hproject hsaid =>
      have hsame := hother.symm.trans (projectSays_iff.mp hsaid)
      cases r <;> cases hsame
  have hdecides : (host "" "").Decides ⟨.slash, ["a"]⟩ ⟨.slash, ["a", "rspec_outline.toml"]⟩
      (.ok found) := hload ▸ .own rfl
  have hunnoticed : (host "" "").Unnoticed (tree "[" "tool = 1") ⟨.slash, ["a"]⟩
      ⟨.slash, ["a", "rspec_outline.toml"]⟩ := by
    rintro ⟨root, names⟩ ⟨rfl, hdots⟩ ⟨rest, rfl⟩
    rcases rest with _ | ⟨name, rest⟩
    · exact .inl rfl
    by_cases hproject : name = "pyproject.toml"
    · subst hproject
      cases rest with
      | nil => exact .inr ⟨rfl, rfl⟩
      | cons name rest => exact .inl rfl
    · have hentry : FileTree.entry? (folder "[") name = FileTree.entry? (folder "") name := by
        simp only [folder, FileTree.entry?, List.lookup_cons, beq_false_of_ne hproject]
      have hdots : ".." ∉ name :: rest := fun hm => hdots (List.mem_cons_of_mem _ hm)
      have hfollow : FileTree.follow [tree "[" "tool = 1"] ("a" :: name :: rest) =
          FileTree.follow [tree "" ""] ("a" :: name :: rest) :=
        FileTree.follow_congr hdots hentry rfl [tree "[" "tool = 1"] [tree "" ""]
      refine .inl (Surroundings.fileAt?_congr ?_)
      show (if _ then _ else FileTree.follow [tree "[" "tool = 1"] ("a" :: name :: rest)) =
        (if _ then _ else FileTree.follow [tree "" ""] ("a" :: name :: rest))
      rw [hfollow]
  obtain ⟨hdecided, -⟩ := search_decided (host "" "") (.ofString "b") (hlooks _ _)
  obtain ⟨hsearch, -, hchanged⟩ := hdecided _ _ _ _ _ (hpath _ _) hsilent hdecides
  exact ⟨hlooks, hunnoticed, hsearch, hchanged (tree "[" "tool = 1") (hlooks _ _) hunnoticed⟩

/-- The name of 256 characters cannot be looked up, so the search breaks where the defaults should
hold. -/
theorem no_defaults_for_long_name :
    let host : SettingsHost := ⟨⟨.directory [], ⟨.slash, []⟩⟩, none, Toml.read⟩
    let start : FilePath := ⟨.relative, [String.ofList (List.replicate 256 'a')]⟩
    (∀ d ∈ host.searchPath start, host.Silent d) ∧ host.defaults = .ok .default ∧
      host.search start =
        .error (.unreadable (.file ⟨(start.resolve host.directory).toString, .nameTooLong⟩)) := by
  intro host start
  have hnone : ∀ d ∈ host.searchPath start, host.isFile (d.child settingsName) = false ∧
      host.isFile (d.child projectName) = false := by
    decide +kernel
  have hnull : ∀ n, (FilePath.mk .relative [String.ofList (List.replicate n 'a')]).hasNull = false := by
    simp [FilePath.hasNull]
  have hlook : host.lookFault? (start.resolve host.directory) =
      some (.file ⟨(start.resolve host.directory).toString, .nameTooLong⟩) := by
    decide +kernel
  refine ⟨fun d hd => silent_of_no_file (hnone d hd).1 (hnone d hd).2, rfl, ?_⟩
  unfold search startFault?
  rw [hnull, hlook]
  rfl

end SettingsHost

end SpecSkeleton
