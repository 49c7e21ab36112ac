import SpecSkeleton.Proofs.Session.Turn

/-!
# The two paths of a document

A document is opened and closed by one path, and changed and refreshed by another. For most URIs of
files they are the same, for most others not (`documentPath_eq_iff`), and a workspace may also have
the document under another spelling of its URI (`spelled_after`). `paths_agree_iff` says what comes
of it in any session: where they agree, a change of the document that was opened is shown, and
closing the one that was refreshed clears the outline; where they do not, both leave it as it is.
-/

namespace SpecSkeleton

namespace Uri

variable {u : Uri}

theorem filePath?_of_file (h : u.scheme = "file") :
    ∃ p, u.filePath? = some p ∧ (p = "" ↔ u.path = "") := by
  unfold filePath?
  rw [if_neg (by simp [h])]
  split
  next hhost => exact ⟨_, rfl, by simp [hhost.2]⟩
  next =>
    refine ⟨_, rfl, ?_⟩
    unfold drivePath?
    split
    next drive rest hpath =>
      have hne : u.path ≠ "" := by
        intro hempty
        rw [hempty] at hpath
        cases hpath
      split <;> simp [hne]
    next => rfl

theorem filePath?_of_not_file (h : u.scheme ≠ "file") : u.filePath? = none :=
  if_pos h

/-- The paths are the same if the URI names a file, or if it is its own path part. -/
theorem documentPath_eq_iff {uri path : String} (huri : ofString uri = .ok u)
    (hpath : Session.pathOf uri = .ok path) :
    u.documentPath = path ↔ u.scheme = "file" ∧ u.path ≠ "" ∨ u.path = uri := by
  simp only [Session.pathOf, huri, Except.map, Except.ok.injEq] at hpath
  subst hpath
  rw [documentPath]
  by_cases hfile : u.scheme = "file"
  · obtain ⟨p, hp, hempty⟩ := filePath?_of_file hfile
    rw [hp]
    by_cases hnone : u.path = ""
    · simp [hempty.mpr hnone, hnone]
    · simp [mt hempty.mp hnone, hnone, hfile]
  · simp [filePath?_of_not_file hfile, hfile]

/-- A path by which a document may go whose URI has the decoded form of this one. -/
def IsDocumentPath (uri path : String) : Prop :=
  ∃ uri' u, Percent.decode uri' = Percent.decode uri ∧ ofString uri' = .ok u ∧
    u.documentPath = path

end Uri

/-! ## Documents of a workspace -/

namespace Workspace

/-- Documents go by the paths of URIs with the decoded form that is their key. -/
def Spelled (w : Workspace) : Prop :=
  ∀ uri d, w.get? uri = some d → Uri.IsDocumentPath uri d.path

variable {w : Workspace} {uri : String}

theorem spelled_nil : Spelled [] :=
  nofun

theorem Spelled.put {u : Uri} (h : w.Spelled) (huri : Uri.ofString uri = .ok u)
    (text : Option String) : (w.put uri ⟨u.documentPath, text⟩).Spelled := by
  intro uri' d hd
  rw [get?_put] at hd
  split at hd
  next hkey =>
    cases hd
    exact ⟨uri, u, hkey.symm, huri, rfl⟩
  next => exact h uri' d hd

theorem Spelled.remove (h : w.Spelled) (uri : String) : (w.remove uri).Spelled := by
  intro uri' d hd
  rw [get?_remove] at hd
  split at hd
  · cases hd
  · exact h uri' d hd

theorem Spelled.edit (h : w.Spelled) (uri text : String) : (w.edit uri text).Spelled := by
  intro uri' d hd
  rw [get?_edit] at hd
  split at hd
  next hkey =>
    obtain ⟨d, hget, rfl⟩ := Option.map_eq_some_iff.mp hd
    obtain ⟨uri'', u, hsame, huri, hpath⟩ := h uri d hget
    exact ⟨uri'', u, hsame.trans hkey.symm, huri, hpath⟩
  next => exact h uri' d hd

theorem Spelled.document {d : Document} (h : w.Spelled) (hd : w.document uri = .ok d) :
    Uri.IsDocumentPath uri d.path := by
  unfold Workspace.document at hd
  split at hd
  next hget =>
    cases hd
    exact h uri d hget
  next =>
    cases huri : Uri.ofString uri with
    | error fault =>
      rw [huri] at hd
      cases hd
    | ok u =>
      rw [huri] at hd
      cases hd
      exact ⟨uri, u, rfl, huri, rfl⟩

end Workspace

namespace Session

variable {rule : NameRule} {host : SettingsHost} {s : Session} {uri path : String}

theorem spelled_turn (h : s.workspace.Spelled) (host : SettingsHost) (r : EditorRequest) :
    (s.turn host r).session.workspace.Spelled := by
  cases r with
  | enter root =>
    obtain ⟨journal, hs⟩ | ⟨settings, journal, hs⟩ := turn_enter s host root
    all_goals
      rw [hs]
      exact h
  | opened uri text =>
    unfold turn opened
    dsimp only
    split
    next huri _ => exact h.put huri _
    next => exact h
    next => exact h
  | changed uri text =>
    unfold turn changed
    dsimp only
    split <;> exact h.edit uri text
  | closed uri =>
    unfold turn closed
    dsimp only
    split
    · exact h.remove uri
    · split <;> exact h.remove uri
  | symbols uri =>
    obtain ⟨journal, hs⟩ := symbols_session s host uri
    rw [turn, hs]
    exact h
  | refresh arguments =>
    unfold turn refresh refreshShown
    dsimp only
    split
    · split <;> exact h
    · split
      · exact h
      · split
        · split <;> exact h
        · exact h
  | outline arguments => exact h

theorem spelled_after (h : s.workspace.Spelled) (host : SettingsHost)
    (requests : List EditorRequest) : (s.after host requests).workspace.Spelled := by
  induction requests generalizing s with
  | nil => exact h
  | cons r requests ih => exact ih (spelled_turn h host r)

/-! ## Turns by the URI of one document -/

theorem Ready.opened_eq {u : Uri} (h : s.Ready rule) (huri : Uri.ofString uri = .ok u)
    (hpath : pathOf uri = .ok path) (text : String) :
    (s.opened uri text).session.Ready rule ∧
      (s.opened uri text).session.workspace =
        s.workspace.put uri ⟨u.documentPath, some text⟩ ∧
      (s.opened uri text).session.state =
        s.state.refresh rule s.settings (.active (some path) (some text)) := by
  simp only [opened, huri, hpath]
  have hlogged : (({ s with
      workspace := s.workspace.put uri ⟨u.documentPath, some text⟩ } : Session).log
        [editorRecord .info s!"Opened: {uri}"]).Ready rule := h.congr rfl rfl
  obtain ⟨hready, hstate⟩ := hlogged.present (.active (some path) (some text)) answerDone
  exact ⟨hready, rfl, hstate⟩

/-- An open document is changed under its own path. -/
theorem Ready.changed_eq (h : s.Ready rule) {d : Document} (hd : s.workspace.get? uri = some d)
    (text : String) :
    (s.changed host uri text).session.state =
      s.state.refresh rule s.settings (.changed d.path text) := by
  have hread : ({ s with workspace := s.workspace.edit uri text } : Session).read host uri =
      .ok (d.path, text) := by
    unfold read Workspace.document
    rw [Workspace.get?_edit, if_pos rfl, hd]
    rfl
  rw [changed, hread]
  have hedited : ({ s with workspace := s.workspace.edit uri text } : Session).Ready rule :=
    h.congr rfl rfl
  exact (hedited.present (.changed d.path text) answerDone).2

theorem Ready.closed_eq (h : s.Ready rule) (hpath : pathOf uri = .ok path) :
    (s.closed uri).session.state = if s.state.file = some path then .empty else s.state := by
  have hlogged : (({ s with workspace := s.workspace.remove uri } : Session).log
      [editorRecord .info s!"Closed: {uri}"]).Ready rule := h.congr rfl rfl
  simp only [closed, hpath]
  change (if s.state.file = some path then _ else _ : Turn).session.state = _
  split
  · exact (hlogged.present (.active none none) answerDone).2
  · rfl

theorem document_of_read {x : String × String} (h : s.read host uri = .ok x) :
    ∃ d, s.workspace.document uri = .ok d ∧ d.path = x.1 := by
  unfold read at h
  cases hdocument : s.workspace.document uri with
  | error fault =>
    rw [hdocument] at h
    cases h
  | ok d =>
    rw [hdocument] at h
    change (do
      let text ← (d.source host.toSurroundings).mapError SessionFault.reading
      return (d.path, text)) = .ok x at h
    cases htext : d.source host.toSurroundings with
    | error fault =>
      rw [htext] at h
      cases h
    | ok text =>
      rw [htext] at h
      cases h
      exact ⟨d, rfl, rfl⟩

/-- A document that is refreshed by its URI is shown under its own path. -/
theorem Ready.refresh_eq (h : s.Ready rule) {arguments : List Value} {answer : EditorAnswer}
    (harguments : uriOfArguments arguments = .text uri) (hne : uri ≠ "")
    (hanswer : (s.refresh host arguments).answer = .ok answer) :
    ∃ d text, s.workspace.document uri = .ok d ∧
      (s.refresh host arguments).session.Ready rule ∧
      (s.refresh host arguments).session.state =
        s.state.refresh rule s.settings (.active (some d.path) (some text)) := by
  have hgiven : (Value.text uri).isGiven = true := by simp [Value.isGiven, hne]
  have htext : (Value.text uri).toUri.mapError SessionFault.noUri >>= s.read host =
      s.read host uri := rfl
  unfold refresh at hanswer ⊢
  simp only [harguments, hgiven, if_true, htext] at hanswer ⊢
  cases hread : s.read host uri with
  | error fault =>
    rw [hread] at hanswer
    cases hanswer
  | ok x =>
    obtain ⟨path, text⟩ := x
    obtain ⟨d, hdocument, rfl⟩ := document_of_read hread
    obtain ⟨hready, hstate⟩ := h.present (.active (some d.path) (some text)) answerOutline
    exact ⟨d, text, hdocument, hready, hstate⟩

/-! ## Opened and changed, refreshed and closed -/

/-- What is shown after an activation is the text that came with it. -/
theorem shown_of_active {settings : Settings} {old : OutlineState} {text : String}
    (h : (old.refresh rule settings (.active (some path) (some text))).file ≠ none) :
    old.refresh rule settings (.active (some path) (some text)) = .ofText rule path text := by
  rw [OutlineState.refresh_active] at h ⊢
  dsimp only at h ⊢
  split at h
  next hspec => exact if_pos hspec
  next => exact absurd rfl h

/-- In every session a document that is opened and shown is shown again after a change of it, and
one that is shown because it was refreshed is no longer shown after it has been closed, just when
the path of the one turn is that of the other. The paths agree for URIs that name a file or are
their own path part; that of a refreshed document comes from some URI with the same decoded form. -/
theorem paths_agree_iff (rule : NameRule) (host : SettingsHost) (level : Option Level)
    (requests : List EditorRequest) {uri path : String} {u : Uri}
    (huri : Uri.ofString uri = .ok u) (hpath : pathOf uri = .ok path) :
    let s := (fresh rule level).after host requests
    (u.documentPath = path ↔ u.scheme = "file" ∧ u.path ≠ "" ∨ u.path = uri) ∧
    (∀ text text',
      let opened := (s.turn host (.opened uri text)).session
      opened.state.file ≠ none →
        opened.state = .ofText rule path text ∧
        (opened.turn host (.changed uri text')).session.state =
          if u.documentPath = path then .ofText rule path text' else opened.state) ∧
    ∀ arguments answer, uriOfArguments arguments = .text uri → uri ≠ "" →
      let refreshed := s.turn host (.refresh arguments)
      refreshed.answer = .ok answer → refreshed.session.state.file ≠ none →
        ∃ shown, Uri.IsDocumentPath uri shown ∧ refreshed.session.state.file = some shown ∧
          (refreshed.session.turn host (.closed uri)).session.state =
            if shown = path then .empty else refreshed.session.state := by
  intro s
  have hready : s.Ready rule := ready_after (ready_fresh rule level) host requests
  have hspelled : s.workspace.Spelled := spelled_after Workspace.spelled_nil host requests
  clear_value s
  refine ⟨Uri.documentPath_eq_iff huri hpath, fun text text' => ?_,
    fun arguments answer harguments hne => ?_⟩
  · intro opened hfile
    obtain ⟨hopened, hworkspace, hstate⟩ := hready.opened_eq huri hpath text
    have hshown : opened.state = .ofText rule path text :=
      hstate.trans (shown_of_active (hstate ▸ hfile))
    have hd : opened.workspace.get? uri = some ⟨u.documentPath, some text⟩ := by
      change (s.opened uri text).session.workspace.get? uri = _
      rw [hworkspace, Workspace.get?_put, if_pos rfl]
    refine ⟨hshown, ?_⟩
    refine (hopened.changed_eq hd text').trans ?_
    rw [OutlineState.refresh_changed]
    change (if opened.state.file = some u.documentPath then _ else opened.state) = _
    rw [hshown, OutlineState.file_ofText]
    by_cases hsame : u.documentPath = path
    · rw [hsame, if_pos rfl, if_pos rfl]
    · rw [if_neg fun h => hsame (Option.some.inj h).symm, if_neg hsame]
  · intro refreshed hanswer hfile
    obtain ⟨d, text, hdocument, hnext, hstate⟩ := hready.refresh_eq harguments hne hanswer
    have hshown : refreshed.session.state = .ofText rule d.path text :=
      hstate.trans (shown_of_active (hstate ▸ hfile))
    refine ⟨d.path, hspelled.document hdocument, by rw [hshown, OutlineState.file_ofText], ?_⟩
    refine (hnext.closed_eq hpath).trans ?_
    change (if refreshed.session.state.file = some path then _ else refreshed.session.state) = _
    rw [hshown, OutlineState.file_ofText]
    simp only [Option.some.injEq]

/-- The paths of a file agree, so its change is shown and its closing clears the outline. -/
theorem paths_agree_iff_file :
    let host : SettingsHost := ⟨⟨.directory [], ⟨.slash, []⟩⟩, none, fun _ => .ok []⟩
    let uri := "file:///a_spec.rb"
    let s := (fresh .standard none).after host [.opened uri "it 1 do"]
    let opened := (s.turn host (.opened uri "it 2 do")).session
    let refreshed := s.turn host (.refresh [.text uri])
    (opened.turn host (.changed uri "it 3 do")).session.state =
        .ofText .standard "/a_spec.rb" "it 3 do" ∧
      (refreshed.session.turn host (.closed uri)).session.state = .empty := by
  intro host uri s opened refreshed
  have huri : Uri.ofString uri = .ok ⟨"file", "", "/a_spec.rb"⟩ := by decide +kernel
  have hpath : pathOf uri = .ok "/a_spec.rb" := by decide +kernel
  obtain ⟨hagree, hopened, hrefreshed⟩ :=
    paths_agree_iff .standard host none [.opened uri "it 1 do"] huri hpath
  have hsame := hagree.mpr (.inl (by decide))
  have hfile : refreshed.session.state.file = some "/a_spec.rb" := by decide +kernel
  refine ⟨((hopened "it 2 do" "it 3 do" (by decide +kernel)).2).trans (if_pos hsame), ?_⟩
  cases hanswer : refreshed.answer with
  | error fault =>
    have hok : refreshed.answer.isOk = true := by decide +kernel
    rw [hanswer] at hok
    cases hok
  | ok answer =>
    obtain ⟨shown, -, hshown, hclosed⟩ :=
      hrefreshed [.text uri] answer rfl (by decide) hanswer (by rw [hfile]; exact nofun)
    exact hclosed.trans (if_pos (Option.some.inj (hshown.symm.trans hfile)))

/-- A document that is not saved has another path when it is changed or refreshed than when it is
opened or closed, so the outline shows a text that is gone. -/
theorem unsaved_document_left :
    let host : SettingsHost := ⟨⟨.directory [], ⟨.slash, []⟩⟩, none, fun _ => .ok []⟩
    let uri := "untitled:x_spec.rb"
    let opened := ((fresh .standard none).turn host (.opened uri "it 'a' do")).session
    let changed := (opened.turn host (.changed uri "it 'b' do")).session
    let refreshed := (opened.turn host (.refresh [.text uri])).session
    opened.state.file = some uri ∧ changed.state ≠ .ofText .standard uri "it 'b' do" ∧
      refreshed.state.file = some "x_spec.rb" ∧
      (refreshed.turn host (.closed uri)).session.state.file = some "x_spec.rb" := by
  intro host uri opened changed refreshed
  refine ⟨by decide +kernel, fun h => ?_, by decide +kernel, by decide +kernel⟩
  have hnames : changed.state.roots.map Node.name =
      (OutlineState.ofText .standard uri "it 'b' do").roots.map Node.name := by rw [h]
  exact absurd hnames (by decide +kernel)

end Session

end SpecSkeleton
