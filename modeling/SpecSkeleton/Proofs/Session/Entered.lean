import SpecSkeleton.Proofs.Settings.Faults
import SpecSkeleton.Session.Basic

/-!
# Entering a workspace

A session that enters a workspace searches for settings there. If it finds some, it adopts them; if
they are refused, it keeps the old ones and says so in its log. Any other fault of the search is
raised, and so is a fault of the URI (`entered_turn`). `settings_fault_iff` says when this happens,
for the session and for the two functions that read settings.
-/

namespace SpecSkeleton

/-- The settings that are found for a workspace. -/
def SettingsHost.Finds (h : SettingsHost) (root : Option String) (settings : Settings) : Prop :=
  ∃ uri path, root = some uri ∧ uri ≠ "" ∧ Session.pathOf uri = .ok path ∧
    h.search (.ofString path) = .ok settings

/-- The ways in which entering a workspace raises. -/
inductive SettingsHost.EnterBreaks (h : SettingsHost) : Option String → SessionFault → Prop where
  | uri {root : String} {fault : UriFault} (hroot : root ≠ "")
      (huri : Session.pathOf root = .error fault) : EnterBreaks h (some root) (.uri fault)
  | reading {root path : String} {fault : ReadFault} (hroot : root ≠ "")
      (huri : Session.pathOf root = .ok path)
      (hsearch : h.SearchBreaks (.ofString path) (.unreadable fault)) :
      EnterBreaks h (some root) (.reading fault)
  | longNumber {root path : String} {number : LongNumber} (hroot : root ≠ "")
      (huri : Session.pathOf root = .ok path)
      (hsearch : h.SearchBreaks (.ofString path) (.longNumber number)) :
      EnterBreaks h (some root) (.longNumber number)

namespace Session

variable {h : SettingsHost} {s : Session} {root path : String}

/-- What comes of entering a workspace. Only the log changes unless settings are found. -/
inductive Entered (h : SettingsHost) (s : Session) (root : Option String) (t : Turn) : Prop where
  | found {settings : Settings} (hfound : h.Finds root settings)
      (hsession : t.session = ({ s with journal := t.session.journal } : Session).adopt settings)
      (hanswer : t.answer = .ok (.settings settings (some settings.level)))
  | kept (hnone : ∀ settings, ¬ h.Finds root settings)
      (hsession : t.session = { s with journal := t.session.journal })
      (hanswer : t.answer = .ok (.settings s.settings s.level))
  | raised {fault : SessionFault} (hbreaks : h.EnterBreaks root fault)
      (hsession : t.session = { s with journal := t.session.journal })
      (hanswer : t.answer = .error fault)

theorem turn_enter_of_ne (hroot : root ≠ "") :
    s.turn h (.enter (some root)) = s.enter h root := by
  have hgiven : root.isEmpty = false := by
    rw [Bool.eq_false_iff]
    exact fun hempty => hroot (String.isEmpty_iff.mp hempty)
  unfold turn
  simp only [Option.getD_some, hgiven, Bool.false_eq_true, if_false]

theorem not_finds_of_search {fault : SettingsFault} (huri : pathOf root = .ok path)
    (hsearch : h.search (.ofString path) = .error fault) (settings : Settings) :
    ¬ h.Finds (some root) settings := by
  rintro ⟨uri, path', heq, -, huri', hfound⟩
  cases heq
  cases huri.symm.trans huri'
  cases hsearch.symm.trans hfound

theorem entered_enter (hroot : root ≠ "") : Entered h s (some root) (s.enter h root) := by
  unfold enter
  cases huri : pathOf root with
  | error fault => exact .raised (.uri hroot huri) rfl rfl
  | ok path =>
    dsimp only
    cases hsearch : h.search (.ofString path) with
    | ok settings => exact .found ⟨root, path, rfl, hroot, huri, hsearch⟩ rfl rfl
    | error fault =>
      cases fault with
      | refused refusal => exact .kept (not_finds_of_search huri hsearch) rfl rfl
      | unreadable fault =>
        have hbreaks := SettingsHost.search_breaks_iff.mp ⟨hsearch, id⟩
        exact .raised (.reading hroot huri hbreaks) rfl rfl
      | longNumber number =>
        have hbreaks := SettingsHost.search_breaks_iff.mp ⟨hsearch, id⟩
        exact .raised (.longNumber hroot huri hbreaks) rfl rfl

theorem entered_turn (h : SettingsHost) (s : Session) (root : Option String) :
    Entered h s root (s.turn h (.enter root)) := by
  by_cases hroot : root.getD "" = ""
  · refine .kept ?_ ?_ ?_
    · rintro settings ⟨uri, path, rfl, hne, -, -⟩
      exact hne hroot
    · unfold turn
      simp only [hroot]
      rfl
    · unfold turn
      simp only [hroot]
      rfl
  · cases root with
    | none => exact absurd rfl hroot
    | some root =>
      have hne : root ≠ "" := hroot
      rw [turn_enter_of_ne hne]
      exact entered_enter hne

theorem enter_raises_iff {root : Option String} {fault : SessionFault} :
    (s.turn h (.enter root)).answer = .error fault ↔ h.EnterBreaks root fault := by
  constructor
  · intro herror
    rcases entered_turn h s root with ⟨_, _, hanswer⟩ | ⟨_, _, hanswer⟩ | ⟨hbreaks, _, hanswer⟩
    · cases herror.symm.trans hanswer
    · cases herror.symm.trans hanswer
    · cases herror.symm.trans hanswer
      exact hbreaks
  · intro hbreaks
    cases hbreaks with
    | uri hroot huri =>
      rw [turn_enter_of_ne hroot]
      unfold enter
      rw [huri]
      rfl
    | reading hroot huri hsearch =>
      have hsearch := (SettingsHost.search_breaks_iff.mpr hsearch).1
      rw [turn_enter_of_ne hroot]
      unfold enter
      simp only [huri, hsearch]
      rfl
    | longNumber hroot huri hsearch =>
      have hsearch := (SettingsHost.search_breaks_iff.mpr hsearch).1
      rw [turn_enter_of_ne hroot]
      unfold enter
      simp only [huri, hsearch]
      rfl

/-- Reading settings and searching for them give settings or refuse, but for the faults listed. A
session that enters a workspace raises for these and for faults of the URI, and for nothing else;
it keeps its settings unless others are found. -/
theorem settings_fault_iff (h : SettingsHost) :
    (∀ p fault, h.load p = .error fault ∧ ¬ fault.IsRefusal ↔ h.LoadBreaks p fault) ∧
    (∀ start fault, h.search start = .error fault ∧ ¬ fault.IsRefusal ↔
      h.SearchBreaks start fault) ∧
    ∀ (s : Session) (root : Option String),
      (∀ fault, (s.turn h (.enter root)).answer = .error fault ↔ h.EnterBreaks root fault) ∧
      Entered h s root (s.turn h (.enter root)) :=
  ⟨fun _ _ => SettingsHost.load_breaks_iff, fun _ _ => SettingsHost.search_breaks_iff,
    fun s root => ⟨fun _ => enter_raises_iff, entered_turn h s root⟩⟩

/-- A settings file with a byte that starts no character is not refused. -/
theorem enter_raises_for_bytes :
    let host : SettingsHost :=
      ⟨⟨.directory [("rspec_outline.toml", .file [0xff])], ⟨.slash, []⟩⟩, none, Toml.read⟩
    let fault : ReadFault := .encoding ⟨0, 1, 0xff, .invalidStart⟩
    host.load ⟨.slash, ["rspec_outline.toml"]⟩ = .error (.unreadable fault) ∧
      host.search ⟨.slash, []⟩ = .error (.unreadable fault) ∧
      ((fresh .standard none).turn host (.enter (some "/"))).answer = .error (.reading fault) := by
  intro host fault
  have hload : host.LoadBreaks ⟨.slash, ["rspec_outline.toml"]⟩ (.unreadable fault) :=
    .table (.encoding (by simp [FilePath.hasNull]) rfl rfl)
  have hpath : host.searchPath ⟨.slash, []⟩ = [] ++ ⟨.slash, []⟩ :: [] := rfl
  have hsearch : host.SearchBreaks ⟨.slash, []⟩ (.unreadable fault) :=
    .directory rfl hpath (by simp) (.own rfl rfl hload)
  have huri : pathOf "/" = .ok "/" := rfl
  have hroot : FilePath.ofString "/" = ⟨.slash, []⟩ := by decide
  refine ⟨(SettingsHost.load_breaks_iff.mpr hload).1, (SettingsHost.search_breaks_iff.mpr hsearch).1,
    enter_raises_iff.mpr (.reading (by decide) huri ?_)⟩
  rw [hroot]
  exact hsearch

end Session

end SpecSkeleton
