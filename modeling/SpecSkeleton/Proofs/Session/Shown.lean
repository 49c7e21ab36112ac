import SpecSkeleton.Proofs.Outline.History
import SpecSkeleton.Proofs.Session.Workspace
import SpecSkeleton.Proofs.Updater.Step
import SpecSkeleton.Session.Basic

/-!
# The outline shows the text that its file has now

An editor opens, changes and closes documents and asks for outlines and symbols in any order, over
many documents. `openText` reads off such a run, for each path, the text with which its document is
open. `Follows` is what every turn keeps (`follows_turn`): the workspace has just these texts, and
if a file is shown, the outline is that of the text which the file has now, read from disk unless it
is open. `shown_is_current` draws the consequences for a whole run.
-/

namespace SpecSkeleton

namespace EditorRequest

def isEnter : EditorRequest → Bool
  | enter _ => true
  | _ => false

/-- The URIs by which a request names documents. -/
def uris : EditorRequest → List String
  | opened uri _ | changed uri _ | closed uri | symbols uri => [uri]
  | refresh arguments =>
    match uriOfArguments arguments with
    | .text uri => if uri.isEmpty then [] else [uri]
    | _ => []
  | enter _ | outline _ => []

/-- Documents are named by the URIs of rooted paths only. -/
def NamesRooted (r : EditorRequest) : Prop :=
  ∀ uri ∈ r.uris, ∃ p, IsRootedPath p ∧ Uri.ofPath p = uri

/-- The text with which a document is open after a request, if it is. -/
def heldText (uri : String) (held : Option String) : EditorRequest → Option String
  | opened u text => if u = uri then some text else held
  | changed u text => if u = uri then held.map fun _ => text else held
  | closed u => if u = uri then none else held
  | _ => held

end EditorRequest

/-- The text with which the document of a path is open after a run of requests, if it is. -/
def openText (requests : List EditorRequest) (p : String) : Option String :=
  requests.foldl (EditorRequest.heldText (Uri.ofPath p)) none

/-- The text that a path has: that of the open document, or else that of the file. -/
def textOf (host : Surroundings) (held : String → Option String) (p : String) :
    Except ReadFault String :=
  Document.source ⟨p, held p⟩ host

namespace OutlineState

variable {rule : NameRule} {settings : Settings} {texts texts' : String → Except ReadFault String}
  {s : OutlineState} {p text : String}

/-- If a file is shown, the state is that of its text. -/
def Shows (rule : NameRule) (settings : Settings) (texts : String → Except ReadFault String)
    (s : OutlineState) : Prop :=
  ∀ p, s.file = some p → IsRootedPath p ∧ isSpecPath settings.specSuffix p = true ∧
    ∃ text, texts p = .ok text ∧ s = ofText rule p text

theorem shows_empty : empty.Shows rule settings texts :=
  fun _ h => nomatch h

/-- A state shows the texts as long as that of its file stays the same. -/
theorem Shows.congr (h : s.Shows rule settings texts)
    (hsame : ∀ q, s.file = some q → texts' q = texts q) : s.Shows rule settings texts' := by
  intro q hq
  rw [hsame q hq]
  exact h q hq

theorem shows_ofText (hp : IsRootedPath p) (hspec : isSpecPath settings.specSuffix p = true)
    (htext : texts p = .ok text) : (ofText rule p text).Shows rule settings texts := by
  intro q hq
  obtain rfl : p = q := Option.some.inj ((file_ofText rule p text).symm.trans hq)
  exact ⟨hp, hspec, text, htext, rfl⟩

theorem shows_active (hp : IsRootedPath p) (htext : texts p = .ok text) (s : OutlineState) :
    (s.refresh rule settings (.active (some p) (some text))).Shows rule settings texts := by
  rw [refresh_active]
  dsimp only
  split
  next hspec => exact shows_ofText hp hspec htext
  next => exact shows_empty

theorem Shows.changed (h : s.Shows rule settings texts) (htext : texts' p = .ok text)
    (hother : ∀ q, p ≠ q → texts' q = texts q) :
    (s.refresh rule settings (.changed p text)).Shows rule settings texts' := by
  rw [refresh_changed]
  split
  next hfile =>
    obtain ⟨hp, hspec, -⟩ := h p hfile
    exact shows_ofText hp hspec htext
  next hfile =>
    exact h.congr fun q hq => hother q fun hpq => hfile (hpq ▸ hq)

end OutlineState

namespace Session

variable {rule : NameRule} {host : SettingsHost} {held : String → Option String} {s : Session}
  {p text : String}

/-- The session after all turns of a run. -/
def after (host : SettingsHost) (s : Session) (requests : List EditorRequest) : Session :=
  requests.foldl (fun s r => (s.turn host r).session) s

/-- What stands in a session besides the outline: the updater has the settings of the session and
nothing in its queue, and the workspace has the given texts. -/
structure Keeps (rule : NameRule) (held : String → Option String) (s : Session) : Prop where
  rule_eq : s.updater.rule = rule
  settings_eq : s.updater.settings = s.settings
  queue_eq : s.updater.queue = []
  holds : s.workspace.Holds held

/-- What every turn keeps: the outline shows the texts that the files have now. -/
structure Follows (rule : NameRule) (host : SettingsHost) (held : String → Option String)
    (s : Session) : Prop extends Keeps rule held s where
  shows_texts : s.state.Shows rule s.settings (textOf host.toSurroundings held)

/-! ## Parts of a turn -/

/-- Presenting an event moves the state on and changes nothing else that is kept. -/
theorem Keeps.present (h : s.Keeps rule held) (e : EditorEvent)
    (answer : Session → EditorAnswer) :
    (s.present e answer).session.Keeps rule held ∧
      (s.present e answer).session.settings = s.settings ∧
      (s.present e answer).session.state = s.state.refresh rule s.settings e := by
  obtain ⟨hrule, hsettings, hqueue, hholds⟩ := h
  obtain ⟨deliveries, journal, hnext⟩ := Updater.process_post hqueue e
  have hupdater : (s.present e answer).session.updater = (s.updater.post e).process := rfl
  refine ⟨⟨?_, ?_, ?_, hholds⟩, rfl, ?_⟩
  · rw [hupdater, hnext]
    exact hrule
  · rw [hupdater, hnext]
    exact hsettings
  · rw [hupdater, hnext]
    exact hqueue
  · rw [state, hupdater, hnext, ← hrule, ← hsettings]
    rfl

theorem Keeps.edit (h : s.Keeps rule held) (hp : IsRootedPath p) (text : String) :
    ({ s with workspace := s.workspace.edit (Uri.ofPath p) text } : Session).Keeps rule
      fun q => if p = q then (held p).map fun _ => text else held q :=
  ⟨h.rule_eq, h.settings_eq, h.queue_eq, h.holds.edit hp text⟩

theorem pathOf_ofPath (hp : IsRootedPath p) : pathOf (Uri.ofPath p) = .ok p := by
  obtain ⟨cs, hcs⟩ := hp.exists_cons
  rw [pathOf, Uri.ofString_ofPath hcs]
  simp [Except.map, Uri.filePath?_rooted hp, hp.ne_empty]

/-- A document is read by the URI of its path: this path and its text, or why there is none. -/
theorem read_ofPath (h : s.workspace.Holds held) (hp : IsRootedPath p) :
    s.read host (Uri.ofPath p) =
      ((textOf host.toSurroundings held p).mapError .reading).map fun text => (p, text) := by
  rw [read, Workspace.document_ofPath h hp]
  change (do
    let text ← (textOf host.toSurroundings held p).mapError SessionFault.reading
    return (p, text)) = _
  cases textOf host.toSurroundings held p <;> rfl

/-! ## One turn -/

/-- Another text is held only for the document of `p`, so what another path has stays the same. -/
theorem textOf_of_ne {host : Surroundings} {value : Option String} {q : String} (hpq : p ≠ q) :
    textOf host (fun q => if p = q then value else held q) q = textOf host held q := by
  simp only [textOf, if_neg hpq]

theorem Follows.opened (h : s.Follows rule host held) (hp : IsRootedPath p) (text : String) :
    (s.opened (Uri.ofPath p) text).session.Follows rule host
      fun q => if p = q then some text else held q := by
  obtain ⟨cs, hcs⟩ := hp.exists_cons
  simp only [Session.opened, Uri.ofString_ofPath hcs, pathOf_ofPath hp, Uri.documentPath_rooted hp]
  obtain ⟨⟨hrule, hsettings, hqueue, hholds⟩, -⟩ := h
  obtain ⟨hkeeps, hsame, hstate⟩ := Keeps.present
    (s := ({ s with workspace := s.workspace.put (Uri.ofPath p) ⟨p, some text⟩ } : Session).log
      [editorRecord .info s!"Opened: {Uri.ofPath p}"])
    ⟨hrule, hsettings, hqueue, hholds.put text⟩ (.active (some p) (some text)) answerDone
  refine ⟨hkeeps, ?_⟩
  rw [hstate, hsame]
  exact OutlineState.shows_active hp (by simp [textOf, Document.source]) _

/-- A change of a document that is not open goes to nobody: the text of its path stays that of the
file. If this one cannot be read, then it is not shown either. -/
theorem Follows.changed (h : s.Follows rule host held) (hp : IsRootedPath p) (text : String) :
    (s.changed host (Uri.ofPath p) text).session.Follows rule host
      fun q => if p = q then (held p).map fun _ => text else held q := by
  obtain ⟨hkeeps, hshows⟩ := h
  have hkeeps := hkeeps.edit hp text
  rw [Session.changed, read_ofPath hkeeps.holds hp]
  cases hnow : textOf host.toSurroundings
      (fun q => if p = q then (held p).map fun _ => text else held q) p with
  | ok now =>
    simp only [Except.mapError, Except.map]
    obtain ⟨hkeeps, hsame, hstate⟩ := hkeeps.present (.changed p now) answerDone
    refine ⟨hkeeps, ?_⟩
    rw [hstate, hsame]
    exact hshows.changed hnow fun q hpq => textOf_of_ne hpq
  | error fault =>
    refine ⟨hkeeps, hshows.congr fun q hq => ?_⟩
    by_cases hpq : p = q
    · subst hpq
      cases hheld : held p with
      | none => simp [textOf, hheld]
      | some old => simp [textOf, hheld, Document.source] at hnow
    · exact textOf_of_ne hpq

theorem Follows.closed (h : s.Follows rule host held) (hp : IsRootedPath p) :
    (s.closed (Uri.ofPath p)).session.Follows rule host
      fun q => if p = q then none else held q := by
  obtain ⟨⟨hrule, hsettings, hqueue, hholds⟩, hshows⟩ := h
  simp only [Session.closed, pathOf_ofPath hp]
  generalize hlogged : ({ s with workspace := s.workspace.remove (Uri.ofPath p) } : Session).log
    [editorRecord .info s!"Closed: {Uri.ofPath p}"] = logged
  have hkeeps : logged.Keeps rule fun q => if p = q then none else held q := by
    subst hlogged
    exact ⟨hrule, hsettings, hqueue, hholds.remove⟩
  have hstate : logged.state = s.state := by rw [← hlogged]; rfl
  have hsettings' : logged.settings = s.settings := by rw [← hlogged]; rfl
  split
  next hfile =>
    obtain ⟨hkeeps, -, hstate⟩ := hkeeps.present (.active none none) answerDone
    refine ⟨hkeeps, ?_⟩
    rw [hstate]
    exact OutlineState.shows_empty
  next hfile =>
    refine ⟨hkeeps, ?_⟩
    rw [answering, hstate, hsettings']
    exact hshows.congr fun q hq => textOf_of_ne fun hpq => hfile (by rw [hstate, hpq, hq])

/-- Asking for symbols writes to the log at most. -/
theorem symbols_session (s : Session) (host : SettingsHost) (uri : String) :
    ∃ journal, (s.symbols host uri).session = { s with journal } := by
  unfold symbols
  split
  · exact ⟨_, rfl⟩
  split
  · split
    · unfold symbolsOf
      dsimp only
      split
      · split <;> exact ⟨_, rfl⟩
      · exact ⟨_, rfl⟩
    · exact ⟨_, rfl⟩
  · exact ⟨_, rfl⟩

theorem Follows.record (h : s.Follows rule host held) (journal : Journal) :
    ({ s with journal } : Session).Follows rule host held :=
  ⟨⟨h.rule_eq, h.settings_eq, h.queue_eq, h.holds⟩, h.shows_texts⟩

/-- Reading the file that is shown again finds the text that is shown. -/
theorem Follows.refreshShown (h : s.Follows rule host held) :
    (s.refreshShown host).session.Follows rule host held ∧
      (s.refreshShown host).session.state = s.state ∧
      (s.refreshShown host).answer = .ok (.outline s.state) := by
  cases hfile : s.state.file with
  | none =>
    rw [Session.refreshShown, hfile]
    exact ⟨h, rfl, rfl⟩
  | some p =>
    obtain ⟨hp, -, text, htext, hstate⟩ := h.shows_texts p hfile
    have hturn : s.refreshShown host = s.present (.changed p text) answerOutline := by
      simp only [Session.refreshShown, hfile, Option.getD_some, hp.ne_empty, hp.isAbsolute,
        hp.normal, read_ofPath h.holds hp, htext]
      rfl
    obtain ⟨hkeeps, hsame, hnext⟩ := h.toKeeps.present (.changed p text) answerOutline
    have hstays : (s.present (.changed p text) answerOutline).session.state = s.state := by
      rw [hnext, OutlineState.refresh_changed, if_pos hfile, ← hstate]
    rw [hturn]
    refine ⟨⟨hkeeps, ?_⟩, hstays, ?_⟩
    · rw [hstays, hsame]
      exact h.shows_texts
    · rw [← hstays]
      rfl

theorem Follows.refresh (h : s.Follows rule host held) {arguments : List Value}
    (hnamed : (EditorRequest.refresh arguments).NamesRooted) :
    (s.refresh host arguments).session.Follows rule host held := by
  unfold Session.refresh
  dsimp only
  split
  next hgiven =>
    cases huri : uriOfArguments arguments with
    | text uri =>
      rw [huri] at hgiven
      have hgiven : uri.isEmpty = false := by simpa [Value.isGiven] using hgiven
      have hmem : uri ∈ (EditorRequest.refresh arguments).uris := by
        simp [EditorRequest.uris, huri, hgiven]
      obtain ⟨p, hp, rfl⟩ := hnamed uri hmem
      have hread : (Value.text (Uri.ofPath p)).toUri.mapError SessionFault.noUri >>= s.read host =
          s.read host (Uri.ofPath p) := rfl
      rw [hread, read_ofPath h.holds hp]
      cases htext : textOf host.toSurroundings held p with
      | error fault => exact h
      | ok text =>
        simp only [Except.mapError, Except.map]
        obtain ⟨hkeeps, hsame, hstate⟩ :=
          h.toKeeps.present (.active (some p) (some text)) answerOutline
        refine ⟨hkeeps, ?_⟩
        rw [hstate, hsame]
        exact OutlineState.shows_active hp htext _
    | _ => exact h
  next => exact h.refreshShown.1

/-- A turn that enters no workspace keeps the outline at the texts that the files have after it. -/
theorem follows_turn (h : s.Follows rule host held) {r : EditorRequest} (hstep : r.isEnter = false)
    (hnamed : r.NamesRooted) :
    (s.turn host r).session.Follows rule host fun p => r.heldText (Uri.ofPath p) (held p) := by
  -- the URI of a request is that of a rooted path, and two of these are equal only for one path
  have hrooted {uri : String} (huri : uri ∈ r.uris) : ∃ p, IsRootedPath p ∧ Uri.ofPath p = uri :=
    hnamed uri huri
  cases r with
  | enter root => cases hstep
  | opened uri text =>
    obtain ⟨p, hp, rfl⟩ := hrooted (List.mem_singleton.mpr rfl)
    simp only [turn, EditorRequest.heldText, Uri.ofPath_inj]
    exact h.opened hp text
  | changed uri text =>
    obtain ⟨p, hp, rfl⟩ := hrooted (List.mem_singleton.mpr rfl)
    have hheld : (fun q => EditorRequest.heldText (Uri.ofPath q) (held q)
        (.changed (Uri.ofPath p) text)) = fun q =>
          if p = q then (held p).map fun _ => text else held q := by
      funext q
      by_cases hpq : p = q <;> simp [EditorRequest.heldText, Uri.ofPath_inj, hpq]
    rw [hheld]
    exact h.changed hp text
  | closed uri =>
    obtain ⟨p, hp, rfl⟩ := hrooted (List.mem_singleton.mpr rfl)
    simp only [turn, EditorRequest.heldText, Uri.ofPath_inj]
    exact h.closed hp
  | symbols uri =>
    obtain ⟨journal, hsession⟩ := symbols_session s host uri
    rw [turn, hsession]
    exact h.record journal
  | refresh arguments => exact h.refresh hnamed
  | outline arguments => exact h

/-! ## What a turn answers and leaves alone -/

/-- The symbols of the document that is shown are those of the outline. -/
theorem Follows.symbols_answer (h : s.Follows rule host held) (hfile : s.state.file = some p) :
    (s.symbols host (Uri.ofPath p)).answer =
      ((Forest.writtenSymbols s.settings s.state.roots).mapError .row).map .symbols := by
  obtain ⟨hp, hspec, text, htext, hstate⟩ := h.shows_texts p hfile
  have hsource : (Document.mk p (held p)).source host.toSurroundings = .ok text := htext
  simp only [symbols, Workspace.document_ofPath h.holds hp, hspec, if_true, hsource, symbolsOf,
    h.rule_eq]
  rw [hstate, OutlineState.ofText]
  have hlogged : (s.log (parseJournal rule text p)).settings = s.settings := rfl
  cases parse rule text p with
  | ok roots =>
    simp only [hlogged]
    cases Forest.writtenSymbols s.settings roots <;> rfl
  | failed message =>
    dsimp only
    simp [Forest.writtenSymbols, Forest.rowFault?, Forest.symbols, Except.mapError, Except.map]

theorem Follows.changed_other (h : s.Follows rule host held) (hp : IsRootedPath p)
    (hfile : s.state.file ≠ some p) (text : String) :
    (s.changed host (Uri.ofPath p) text).session.state = s.state := by
  have hkeeps := h.toKeeps.edit hp text
  rw [Session.changed, read_ofPath hkeeps.holds hp]
  cases textOf host.toSurroundings
      (fun q => if p = q then (held p).map fun _ => text else held q) p with
  | ok now =>
    simp only [Except.mapError, Except.map]
    obtain ⟨-, -, hstate⟩ := hkeeps.present (.changed p now) answerDone
    rw [hstate, OutlineState.refresh_changed]
    exact if_neg hfile
  | error fault => rfl

theorem closed_other (hp : IsRootedPath p) (hfile : s.state.file ≠ some p) :
    (s.closed (Uri.ofPath p)).session.state = s.state := by
  simp only [closed, pathOf_ofPath hp]
  split
  next h => exact absurd h hfile
  next => rfl

/-! ## Entering a workspace -/

/-- Entering a workspace writes to the log, and may bring settings. -/
theorem turn_enter (s : Session) (host : SettingsHost) (root : Option String) :
    (∃ journal, (s.turn host (.enter root)).session = { s with journal }) ∨
      ∃ settings journal,
        (s.turn host (.enter root)).session = ({ s with journal } : Session).adopt settings := by
  unfold turn
  dsimp only
  split
  · exact .inl ⟨_, rfl⟩
  unfold enter
  split
  · exact .inl ⟨_, rfl⟩
  dsimp only
  split
  · exact .inr ⟨_, _, rfl⟩
  all_goals exact .inl ⟨_, rfl⟩

/-- As long as nothing is shown, settings may change. -/
theorem Follows.enter (h : s.Follows rule host held) (hempty : s.state = .empty)
    (root : Option String) :
    (s.turn host (.enter root)).session.Follows rule host held ∧
      (s.turn host (.enter root)).session.state = .empty := by
  obtain ⟨journal, hs⟩ | ⟨settings, journal, hs⟩ := turn_enter s host root
  · rw [hs]
    exact ⟨h.record journal, hempty⟩
  · rw [hs]
    have hstate : (({ s with journal } : Session).adopt settings).state = .empty := hempty
    refine ⟨⟨⟨h.rule_eq, rfl, h.queue_eq, h.holds⟩, ?_⟩, hstate⟩
    rw [hstate]
    exact OutlineState.shows_empty

theorem follows_fresh (rule : NameRule) (host : SettingsHost) (level : Option Level) :
    (fresh rule level).Follows rule host fun _ => none :=
  ⟨⟨rfl, rfl, rfl, Workspace.holds_nil⟩, OutlineState.shows_empty⟩

/-! ## Whole runs -/

theorem follows_enters {enters : List EditorRequest} (henters : ∀ r ∈ enters, r.isEnter = true)
    (h : s.Follows rule host held) (hempty : s.state = .empty) :
    (s.after host enters).Follows rule host held := by
  induction enters generalizing s with
  | nil => exact h
  | cons r enters ih =>
    obtain ⟨hr, hrest⟩ := List.forall_mem_cons.mp henters
    cases r with
    | enter root =>
      obtain ⟨hnext, hempty⟩ := h.enter hempty root
      exact ih hrest hnext hempty
    | _ => cases hr

theorem follows_steps {steps : List EditorRequest} (hsteps : ∀ r ∈ steps, r.isEnter = false)
    (hnamed : ∀ r ∈ steps, r.NamesRooted) (h : s.Follows rule host held) :
    (s.after host steps).Follows rule host fun p =>
      steps.foldl (EditorRequest.heldText (Uri.ofPath p)) (held p) := by
  induction steps generalizing s held with
  | nil => exact h
  | cons r steps ih =>
    obtain ⟨hr, hsteps⟩ := List.forall_mem_cons.mp hsteps
    obtain ⟨hrnamed, hnamed⟩ := List.forall_mem_cons.mp hnamed
    exact ih hsteps hnamed (follows_turn h hr hrnamed)

theorem openText_enters {enters : List EditorRequest} (henters : ∀ r ∈ enters, r.isEnter = true)
    (steps : List EditorRequest) (p : String) :
    openText (enters ++ steps) p = openText steps p := by
  induction enters with
  | nil => rfl
  | cons r enters ih =>
    obtain ⟨hr, hrest⟩ := List.forall_mem_cons.mp henters
    cases r with
    | enter root => exact ih hrest
    | _ => cases hr

theorem follows_run (rule : NameRule) (host : SettingsHost) (level : Option Level)
    {enters steps : List EditorRequest} (henters : ∀ r ∈ enters, r.isEnter = true)
    (hsteps : ∀ r ∈ steps, r.isEnter = false) (hnamed : ∀ r ∈ steps, r.NamesRooted) :
    ((fresh rule level).after host (enters ++ steps)).Follows rule host
      (openText (enters ++ steps)) := by
  have hheld : openText (enters ++ steps) = openText steps :=
    funext (openText_enters henters steps)
  have hafter : (fresh rule level).after host (enters ++ steps) =
      ((fresh rule level).after host enters).after host steps := List.foldl_append
  rw [hheld, hafter]
  exact follows_steps hsteps hnamed
    (follows_enters henters (follows_fresh rule host level) rfl)

/-- After any run that enters workspaces only at its start, the outline of the file that is shown is
that of the text which the file has now, in the workspace if it is open and else on disk, and asking
for its symbols gives those of the outline.
Reading it again by default changes nothing. Changes and closings of other documents, and questions
for their symbols, leave the outline alone. -/
theorem shown_is_current (rule : NameRule) (host : SettingsHost) (level : Option Level)
    {enters steps : List EditorRequest} (henters : ∀ r ∈ enters, r.isEnter = true)
    (hsteps : ∀ r ∈ steps, r.isEnter = false) (hnamed : ∀ r ∈ steps, r.NamesRooted) :
    let s := (fresh rule level).after host (enters ++ steps)
    (∀ p, s.state.file = some p →
      IsRootedPath p ∧
      s.workspace.document (Uri.ofPath p) = .ok ⟨p, openText (enters ++ steps) p⟩ ∧
      (∃ text, textOf host.toSurroundings (openText (enters ++ steps)) p = .ok text ∧
        s.state = .ofText rule p text) ∧
      (s.turn host (.symbols (Uri.ofPath p))).answer =
        ((Forest.writtenSymbols s.settings s.state.roots).mapError .row).map .symbols) ∧
    (∀ arguments, (uriOfArguments arguments).isGiven = false →
      (s.turn host (.refresh arguments)).session.state = s.state ∧
      (s.turn host (.refresh arguments)).answer = .ok (.outline s.state)) ∧
    ∀ p, IsRootedPath p → s.state.file ≠ some p →
      (∀ text, (s.turn host (.changed (Uri.ofPath p) text)).session.state = s.state) ∧
      (s.turn host (.closed (Uri.ofPath p))).session.state = s.state ∧
      (s.turn host (.symbols (Uri.ofPath p))).session.state = s.state := by
  intro s
  have h : s.Follows rule host (openText (enters ++ steps)) :=
    follows_run rule host level henters hsteps hnamed
  clear_value s
  refine ⟨fun p hfile => ?_, fun arguments hgiven => ?_, fun p hp hfile => ⟨fun text => ?_, ?_, ?_⟩⟩
  · obtain ⟨hp, -, htext⟩ := h.shows_texts p hfile
    exact ⟨hp, Workspace.document_ofPath h.holds hp, htext, h.symbols_answer hfile⟩
  · have hturn : s.turn host (.refresh arguments) = s.refreshShown host := by
      simp only [turn, refresh, hgiven, Bool.false_eq_true, if_false]
    rw [hturn]
    exact h.refreshShown.2
  · exact h.changed_other hp hfile text
  · rw [turn]
    exact closed_other hp hfile
  · obtain ⟨journal, hsession⟩ := symbols_session s host (Uri.ofPath p)
    rw [turn, hsession]
    rfl

/-- Two documents are open, and the one that is shown has been changed since. -/
theorem shown_is_current_changed :
    let host : SettingsHost := ⟨⟨.directory [], ⟨.slash, []⟩⟩, none, fun _ => .ok []⟩
    let steps : List EditorRequest :=
      [.opened (Uri.ofPath "/b_spec.rb") "it 1 do",
        .opened (Uri.ofPath "/a_spec.rb") "describe 2 do",
        .changed (Uri.ofPath "/a_spec.rb") "context 3 do",
        .closed (Uri.ofPath "/b_spec.rb"), .refresh []]
    let s := (fresh .standard none).after host ([.enter none] ++ steps)
    s.state = .ofText .standard "/a_spec.rb" "context 3 do" ∧
      (s.turn host (.refresh [.null])).session.state = s.state ∧
      (s.turn host (.closed (Uri.ofPath "/b_spec.rb"))).session.state = s.state := by
  intro host steps s
  have ha : IsRootedPath "/a_spec.rb" := ⟨by decide, by decide, by decide⟩
  have hb : IsRootedPath "/b_spec.rb" := ⟨by decide, by decide, by decide⟩
  have henters : ∀ r ∈ [EditorRequest.enter none], r.isEnter = true := by decide
  have hsteps : ∀ r ∈ steps, r.isEnter = false := by decide
  have hnamed : ∀ r ∈ steps, r.NamesRooted := by
    simp [steps, EditorRequest.NamesRooted, EditorRequest.uris, uriOfArguments, Uri.ofPath_inj, ha,
      hb]
  obtain ⟨hshown, hrefresh, hother⟩ :=
    shown_is_current .standard host none henters hsteps hnamed
  have hfile : s.state.file = some "/a_spec.rb" := by decide +kernel
  have hopen : openText ([.enter none] ++ steps) "/a_spec.rb" = some "context 3 do" := by
    decide +kernel
  obtain ⟨-, -, ⟨text, htext, hstate⟩, -⟩ := hshown _ hfile
  rw [textOf, hopen] at htext
  cases htext
  exact ⟨hstate, (hrefresh [.null] (by decide)).1,
    (hother _ hb (by rw [hfile]; decide)).2.1⟩

end Session

end SpecSkeleton
