import SpecSkeleton.Proofs.Session.DocumentPath
import SpecSkeleton.Proofs.Session.Entered

/-!
# Requests that fail

A request fails if it raises, or if the settings of the workspace that it enters are refused. The
log is told; nothing is sent, and what the session holds stays as it is (`Fails.session_eq`). One
thing may go: a document whose closing raises is no longer open, by whatever spelling of its URI it
was opened. As no answer depends on the log (`alike_turn`), a run goes on after a failed request as
if it had not been made, unless it took a document out of the workspace
(`failed_request_undone`).
-/

namespace SpecSkeleton

/-- The documents that are open after a request has failed. -/
def EditorRequest.leaves (w : Workspace) : EditorRequest → Workspace
  | closed uri => w.remove uri
  | _ => w

/-- The request takes an open document out of the workspace. -/
def EditorRequest.Forgets (w : Workspace) (r : EditorRequest) : Prop :=
  ∃ uri d, r = .closed uri ∧ w.get? uri = some d

theorem Surroundings.readText_of_not_ok {s : Surroundings} {p : FilePath}
    (h : (s.find p).isOk = false) : ∃ fault, s.readText p = .error fault := by
  unfold readText
  split
  · exact ⟨_, rfl⟩
  · cases hfind : s.find p with
    | error trouble => exact ⟨_, rfl⟩
    | ok t =>
      rw [hfind] at h
      cases h

namespace Workspace

variable {w : Workspace} {uri : String}

theorem remove_of_get?_eq_none (h : w.get? uri = none) : w.remove uri = w := by
  refine List.filter_eq_self.mpr fun entry hentry => ?_
  have hkey : (Percent.decode uri != entry.1) = true := List.lookup_eq_none_iff.mp h entry hentry
  exact bne_comm.trans hkey

theorem edit_of_get?_eq_none (h : w.get? uri = none) (text : String) : w.edit uri text = w := by
  rw [edit, h]

end Workspace

theorem EditorRequest.leaves_of_not_forgets {w : Workspace} {r : EditorRequest}
    (h : ¬ r.Forgets w) : r.leaves w = w := by
  cases r with
  | closed uri =>
    refine Workspace.remove_of_get?_eq_none ?_
    cases hget : w.get? uri with
    | none => rfl
    | some d => exact absurd ⟨uri, d, rfl, hget⟩ h
  | _ => rfl

namespace Session

variable {rule : NameRule} {host : SettingsHost} {s s' : Session} {r : EditorRequest}

/-! ## The log plays no part -/

/-- Nothing but the log sets two sessions apart. -/
def Alike (s s' : Session) : Prop :=
  ∃ journal, s' = { s with journal }

theorem Alike.updater_eq (h : Alike s s') : s'.updater = s.updater := by
  obtain ⟨journal, rfl⟩ := h
  rfl

theorem Alike.settings_eq (h : Alike s s') : s'.settings = s.settings := by
  obtain ⟨journal, rfl⟩ := h
  rfl

theorem Alike.level_eq (h : Alike s s') : s'.level = s.level := by
  obtain ⟨journal, rfl⟩ := h
  rfl

/-- Two turns do the same to sessions that only the log sets apart. -/
structure AlikeTurns (t t' : Turn) : Prop where
  answer_eq : t'.answer = t.answer
  sent_eq : t'.sent = t.sent
  session_alike : Alike t.session t'.session

theorem alike_faulty (h : Alike s s') (fault : SessionFault) :
    AlikeTurns (s.faulty fault) (s'.faulty fault) :=
  ⟨rfl, rfl, h⟩

theorem alike_answering (h : Alike s s') (answer : EditorAnswer) :
    AlikeTurns (s.answering answer) (s'.answering answer) :=
  ⟨rfl, rfl, h⟩

theorem alike_present (h : Alike s s') (e : EditorEvent) {answer : Session → EditorAnswer}
    (hanswer : ∀ (s : Session) journal, answer { s with journal } = answer s) :
    AlikeTurns (s.present e answer) (s'.present e answer) := by
  obtain ⟨journal, rfl⟩ := h
  refine ⟨congrArg Except.ok ?_, rfl, _, rfl⟩
  exact hanswer (s.present e answer).session _

theorem alike_enter (h : Alike s s') (host : SettingsHost) (root : String) :
    AlikeTurns (s.enter host root) (s'.enter host root) := by
  obtain ⟨journal, rfl⟩ := h
  unfold enter
  split
  · exact alike_faulty ⟨_, rfl⟩ _
  dsimp only
  split
  all_goals exact ⟨rfl, rfl, _, rfl⟩

@[simp]
theorem settings_log (s : Session) (records : Journal) : (s.log records).settings = s.settings :=
  rfl

theorem alike_symbolsOf (h : Alike s s') (path text : String) :
    AlikeTurns (s.symbolsOf path text) (s'.symbolsOf path text) := by
  obtain ⟨journal, rfl⟩ := h
  unfold symbolsOf
  simp only [settings_log]
  split
  · split <;> exact ⟨rfl, rfl, _, rfl⟩
  · exact ⟨rfl, rfl, _, rfl⟩

theorem alike_symbols (h : Alike s s') (host : SettingsHost) (uri : String) :
    AlikeTurns (s.symbols host uri) (s'.symbols host uri) := by
  obtain ⟨journal, rfl⟩ := h
  unfold symbols
  dsimp only
  split
  · exact alike_faulty ⟨_, rfl⟩ _
  split
  · split
    · exact alike_symbolsOf ⟨_, rfl⟩ _ _
    · exact alike_faulty ⟨_, rfl⟩ _
  · exact alike_answering ⟨_, rfl⟩ _

theorem alike_opened (h : Alike s s') (uri text : String) :
    AlikeTurns (s.opened uri text) (s'.opened uri text) := by
  obtain ⟨journal, rfl⟩ := h
  unfold opened
  split
  · exact alike_present ⟨_, rfl⟩ _ fun _ _ => rfl
  all_goals exact alike_faulty ⟨_, rfl⟩ _

theorem alike_changed (h : Alike s s') (host : SettingsHost) (uri text : String) :
    AlikeTurns (s.changed host uri text) (s'.changed host uri text) := by
  obtain ⟨journal, rfl⟩ := h
  have hread :
      ({ s with workspace := s.workspace.edit uri text, journal } : Session).read host uri =
        ({ s with workspace := s.workspace.edit uri text } : Session).read host uri := rfl
  unfold changed
  simp only [hread]
  split
  · exact alike_present ⟨_, rfl⟩ _ fun _ _ => rfl
  · exact alike_faulty ⟨_, rfl⟩ _

theorem alike_closed (h : Alike s s') (uri : String) :
    AlikeTurns (s.closed uri) (s'.closed uri) := by
  obtain ⟨journal, rfl⟩ := h
  unfold closed
  dsimp only
  split
  · exact alike_faulty ⟨_, rfl⟩ _
  next path _ =>
    change AlikeTurns (if s.state.file = some path then _ else _)
      (if s.state.file = some path then _ else _)
    split
    · exact alike_present ⟨_, rfl⟩ _ fun _ _ => rfl
    · exact alike_answering ⟨_, rfl⟩ _

theorem alike_refresh (h : Alike s s') (host : SettingsHost) (arguments : List Value) :
    AlikeTurns (s.refresh host arguments) (s'.refresh host arguments) := by
  obtain ⟨journal, rfl⟩ := h
  have hread : ({ s with journal } : Session).read host = s.read host := rfl
  have hstate : ({ s with journal } : Session).state = s.state := rfl
  unfold refresh refreshShown
  simp only [hread, hstate]
  split
  · split
    · exact alike_present ⟨_, rfl⟩ _ fun _ _ => rfl
    · exact alike_faulty ⟨_, rfl⟩ _
  · split
    · exact alike_answering ⟨_, rfl⟩ _
    split
    · split
      · exact alike_present ⟨_, rfl⟩ _ fun _ _ => rfl
      · exact alike_faulty ⟨_, rfl⟩ _
    · exact alike_faulty ⟨_, rfl⟩ _

theorem alike_turn (h : Alike s s') (host : SettingsHost) (r : EditorRequest) :
    AlikeTurns (s.turn host r) (s'.turn host r) := by
  cases r with
  | enter root =>
    obtain ⟨journal, rfl⟩ := h
    unfold turn
    dsimp only
    split
    · exact alike_answering ⟨_, rfl⟩ _
    · exact alike_enter ⟨_, rfl⟩ host _
  | opened uri text => exact alike_opened h uri text
  | changed uri text => exact alike_changed h host uri text
  | closed uri => exact alike_closed h uri
  | symbols uri => exact alike_symbols h host uri
  | refresh arguments => exact alike_refresh h host arguments
  | outline arguments =>
    obtain ⟨journal, rfl⟩ := h
    exact alike_answering ⟨_, rfl⟩ _

/-! ## Runs -/

/-- What a run shows of its turns: the answer and what is sent. -/
def outcomes (host : SettingsHost) (s : Session) (requests : List EditorRequest) :
    List (Except SessionFault EditorAnswer × List EditorMessage) :=
  (s.turns host requests).map fun t => (t.answer, t.sent)

theorem outcomes_cons (host : SettingsHost) (s : Session) (r : EditorRequest)
    (requests : List EditorRequest) :
    s.outcomes host (r :: requests) =
      ((s.turn host r).answer, (s.turn host r).sent) ::
        (s.turn host r).session.outcomes host requests :=
  rfl

theorem outcomes_append (host : SettingsHost) (s : Session) (requests more : List EditorRequest) :
    s.outcomes host (requests ++ more) =
      s.outcomes host requests ++ (s.after host requests).outcomes host more := by
  induction requests generalizing s with
  | nil => rfl
  | cons r requests ih =>
    rw [List.cons_append, outcomes_cons, outcomes_cons, ih, List.cons_append]
    rfl

theorem length_outcomes (host : SettingsHost) (s : Session) (requests : List EditorRequest) :
    (s.outcomes host requests).length = requests.length := by
  induction requests generalizing s with
  | nil => rfl
  | cons r requests ih => rw [outcomes_cons, List.length_cons, ih, List.length_cons]

theorem Alike.outcomes_eq (h : Alike s s') (host : SettingsHost) (requests : List EditorRequest) :
    s'.outcomes host requests = s.outcomes host requests := by
  induction requests generalizing s s' with
  | nil => rfl
  | cons r requests ih =>
    obtain ⟨hanswer, hsent, hsession⟩ := alike_turn h host r
    rw [outcomes_cons, outcomes_cons, hanswer, hsent, ih hsession]

/-! ## Settings and level -/

/-- The level is the one before any settings were found, or that of the settings. -/
def Leveled (level : Option Level) (s : Session) : Prop :=
  s.level = level ∧ s.settings = {} ∨ s.level = some s.settings.level

theorem Leveled.congr {level : Option Level} (h : s.Leveled level)
    (hsettings : s'.settings = s.settings) (hlevel : s'.level = s.level) : s'.Leveled level := by
  rw [Leveled, hsettings, hlevel]
  exact h

/-- Settings come with their level, and only when a workspace is entered. -/
theorem leveled_turn {level : Option Level} (h : s.Leveled level) (host : SettingsHost)
    (r : EditorRequest) : (s.turn host r).session.Leveled level := by
  cases r with
  | enter root =>
    obtain ⟨journal, hs⟩ | ⟨settings, journal, hs⟩ := turn_enter s host root
    · exact h.congr (by rw [hs]) (by rw [hs])
    · exact .inr (by rw [hs]; rfl)
  | opened uri text =>
    unfold turn opened
    dsimp only
    split <;> exact h.congr rfl rfl
  | changed uri text =>
    unfold turn changed
    dsimp only
    split <;> exact h.congr rfl rfl
  | closed uri =>
    unfold turn closed
    dsimp only
    split
    · exact h.congr rfl rfl
    · split <;> exact h.congr rfl rfl
  | symbols uri =>
    obtain ⟨journal, hs⟩ := symbols_session s host uri
    exact h.congr (by rw [turn, hs]) (by rw [turn, hs])
  | refresh arguments =>
    unfold turn refresh refreshShown
    dsimp only
    split
    · split <;> exact h.congr rfl rfl
    · split
      · exact h
      · split
        · split <;> exact h.congr rfl rfl
        · exact h
  | outline arguments => exact h

theorem leveled_after {level : Option Level} (h : s.Leveled level) (host : SettingsHost)
    (requests : List EditorRequest) : (s.after host requests).Leveled level := by
  induction requests generalizing s with
  | nil => exact h
  | cons r requests ih => exact ih (leveled_turn h host r)

/-! ## Failed requests -/

/-- The ways in which a request fails. -/
inductive Fails (host : SettingsHost) (s : Session) : EditorRequest → Prop where
  | raised {r : EditorRequest} {fault : SessionFault}
      (hanswer : (s.turn host r).answer = .error fault) : Fails host s r
  | refused {root path : String} {refusal : SettingsRefusal} (hroot : root ≠ "")
      (huri : pathOf root = .ok path)
      (hsearch : host.search (.ofString path) = .error (.refused refusal)) :
      Fails host s (.enter (some root))

theorem fails_of_not_ok (h : (s.turn host r).answer.isOk = false) : s.Fails host r := by
  cases hanswer : (s.turn host r).answer with
  | error fault => exact .raised hanswer
  | ok answer =>
    rw [hanswer] at h
    cases h

theorem sent_enter (host : SettingsHost) (s : Session) (root : Option String) :
    (s.turn host (.enter root)).sent = [] := by
  unfold turn
  dsimp only
  split
  · rfl
  unfold enter
  split
  · rfl
  dsimp only
  split <;> rfl

theorem Fails.sent_eq (h : s.Fails host r) (hready : s.Ready rule) : (s.turn host r).sent = [] := by
  cases h with
  | raised hanswer => exact (turn_fault hready hanswer).2
  | refused => exact sent_enter host s _

theorem Fails.enter_eq {root : Option String} (h : s.Fails host (.enter root)) :
    Alike s (s.turn host (.enter root)).session := by
  rcases entered_turn host s root with
    ⟨hfound, -, hanswer⟩ | ⟨-, hsession, -⟩ | ⟨-, hsession, -⟩
  · cases h with
    | raised hfault => cases hfault.symm.trans hanswer
    | refused _ huri hsearch => exact absurd hfound (not_finds_of_search huri hsearch _)
  · exact ⟨_, hsession⟩
  · exact ⟨_, hsession⟩

theorem opened_fault {uri text : String} {fault : SessionFault}
    (h : (s.opened uri text).answer = .error fault) : (s.opened uri text).session = s := by
  unfold opened at h ⊢
  split at h
  · cases h
  all_goals rfl

/-- A document that is open has the text that a change gives it, so the change of one that cannot
be read leaves the workspace alone. -/
theorem changed_fault {uri text : String} {fault : SessionFault}
    (h : (s.changed host uri text).answer = .error fault) :
    (s.changed host uri text).session = s := by
  have hread : ∀ fault,
      ({ s with workspace := s.workspace.edit uri text } : Session).read host uri = .error fault →
        s.workspace.edit uri text = s.workspace := by
    intro fault hfault
    refine Workspace.edit_of_get?_eq_none ?_ text
    cases hget : s.workspace.get? uri with
    | none => rfl
    | some d =>
      unfold read Workspace.document at hfault
      rw [Workspace.get?_edit, if_pos rfl, hget] at hfault
      cases hfault
  unfold changed at h ⊢
  dsimp only at h ⊢
  split at h
  · cases h
  next hfault =>
    change ({ s with workspace := s.workspace.edit uri text } : Session) = s
    rw [hread _ hfault]

theorem closed_fault {uri : String} {fault : SessionFault}
    (h : (s.closed uri).answer = .error fault) :
    Alike { s with workspace := s.workspace.remove uri } (s.closed uri).session := by
  unfold closed at h ⊢
  dsimp only at h ⊢
  split at h
  · exact ⟨_, rfl⟩
  · split at h <;> cases h

theorem refresh_fault {arguments : List Value} {fault : SessionFault}
    (h : (s.refresh host arguments).answer = .error fault) :
    (s.refresh host arguments).session = s := by
  revert h
  unfold refresh refreshShown
  dsimp only
  split
  · split
    · exact nofun
    · exact fun _ => rfl
  · split
    · exact nofun
    split
    · split
      · exact nofun
      · exact fun _ => rfl
    · exact fun _ => rfl

/-- A failed request leaves everything as it is but the log, and the workspace if it is a
closing. -/
theorem Fails.session_eq (h : s.Fails host r) :
    Alike { s with workspace := r.leaves s.workspace } (s.turn host r).session := by
  cases r with
  | enter root => exact h.enter_eq
  | opened uri text =>
    obtain ⟨hanswer⟩ := h
    exact ⟨s.journal, opened_fault hanswer⟩
  | changed uri text =>
    obtain ⟨hanswer⟩ := h
    exact ⟨s.journal, changed_fault hanswer⟩
  | closed uri =>
    obtain ⟨hanswer⟩ := h
    exact closed_fault hanswer
  | symbols uri =>
    obtain ⟨journal, hs⟩ := symbols_session s host uri
    exact ⟨journal, hs⟩
  | refresh arguments =>
    obtain ⟨hanswer⟩ := h
    exact ⟨s.journal, refresh_fault hanswer⟩
  | outline arguments => exact ⟨_, rfl⟩

/-- After any run the updater has the settings that symbols are made with and nothing in its queue,
and the level is that of these settings if any were ever found. A request that fails then sends
nothing and leaves the outline, the settings, the level and the queue as they are. The rest of the
run goes on as from the session before it, less the document that it took out of the workspace; if
it took none, all others have the same answers and send the same when it is left out. -/
theorem failed_request_undone (rule : NameRule) (host : SettingsHost) (level : Option Level)
    (before : List EditorRequest) (r : EditorRequest) (after : List EditorRequest) :
    let start := fresh rule level
    let s := start.after host before
    let t := s.turn host r
    (s.updater.settings = s.settings ∧ s.updater.queue = [] ∧
      (s.level = level ∧ s.settings = {} ∨ s.level = some s.settings.level)) ∧
    (s.Fails host r →
      t.sent = [] ∧ t.session.updater = s.updater ∧ t.session.settings = s.settings ∧
      t.session.level = s.level ∧
      start.outcomes host (before ++ r :: after) =
        start.outcomes host before ++ (t.answer, []) ::
          ({ s with workspace := r.leaves s.workspace } : Session).outcomes host after ∧
      (¬ r.Forgets s.workspace →
        (start.outcomes host (before ++ r :: after)).eraseIdx before.length =
          start.outcomes host (before ++ after))) := by
  intro start s t
  have hready : s.Ready rule := ready_after (ready_fresh rule level) host before
  have hleveled : s.Leveled level := leveled_after (.inl ⟨rfl, rfl⟩) host before
  refine ⟨⟨hready.settings_eq, hready.queue_eq, hleveled⟩, fun hfails => ?_⟩
  have hsession := hfails.session_eq
  have hsent : t.sent = [] := hfails.sent_eq hready
  have hrun : start.outcomes host (before ++ r :: after) =
      start.outcomes host before ++ (t.answer, []) ::
        ({ s with workspace := r.leaves s.workspace } : Session).outcomes host after := by
    rw [outcomes_append, outcomes_cons, hsession.outcomes_eq, ← hsent]
  refine ⟨hsent, hsession.updater_eq, hsession.settings_eq, hsession.level_eq, hrun,
    fun hkeeps => ?_⟩
  rw [hrun, EditorRequest.leaves_of_not_forgets hkeeps, outcomes_append,
    ← length_outcomes host start before, List.eraseIdx_append_of_length_le (Nat.le_refl _),
    Nat.sub_self]
  rfl

/-- A document that is not saved cannot be refreshed unless its URI is given, and nobody notices
afterwards. -/
theorem failed_request_undone_refresh :
    let host : SettingsHost := ⟨⟨.directory [], ⟨.slash, []⟩⟩, none, fun _ => .ok []⟩
    let start := fresh .standard none
    let opened := EditorRequest.opened "untitled:a_spec.rb" "it 'a' do"
    let refresh := EditorRequest.refresh []
    let symbols := EditorRequest.symbols "untitled:a_spec.rb"
    (start.after host [opened]).Fails host refresh ∧
      ((start.after host [opened]).turn host refresh).sent = [] ∧
      (start.outcomes host [opened, refresh, symbols]).eraseIdx 1 =
        start.outcomes host [opened, symbols] := by
  intro host start opened refresh symbols
  have hfails : (start.after host [opened]).Fails host refresh :=
    fails_of_not_ok (by decide +kernel)
  obtain ⟨hsent, -, -, -, -, hundone⟩ :=
    (failed_request_undone .standard host none [opened] refresh [symbols]).2 hfails
  exact ⟨hfails, hsent, hundone nofun⟩

/-- Two spellings of a URI name one document, also when one of them is no URI: closing that one
raises, and the document is gone. -/
theorem failed_closing_noticed :
    let host : SettingsHost := ⟨⟨.directory [], ⟨.slash, []⟩⟩, none, fun _ => .ok []⟩
    let start := fresh .standard none
    let opened := EditorRequest.opened "file://%5Bx/a_spec.rb" "it 'a' do"
    let closed := EditorRequest.closed "file://[x/a_spec.rb"
    let symbols := EditorRequest.symbols "file://%5Bx/a_spec.rb"
    (start.after host [opened]).Fails host closed ∧
      (start.outcomes host [opened, closed, symbols]).eraseIdx 1 ≠
        start.outcomes host [opened, symbols] := by
  intro host start opened closed symbols
  refine ⟨fails_of_not_ok (by decide +kernel), fun hsame => ?_⟩
  have hkept : ((start.after host [opened]).turn host symbols).answer.isOk = true := by
    decide +kernel
  have hlost : ((start.after host [opened, closed]).turn host symbols).answer.isOk = false := by
    have hdocument : (start.after host [opened, closed]).workspace.document
        "file://%5Bx/a_spec.rb" = .ok ⟨"//[x/a_spec.rb", none⟩ := by decide +kernel
    have hspec : isSpecPath (start.after host [opened, closed]).settings.specSuffix
        "//[x/a_spec.rb" = true := by decide +kernel
    obtain ⟨fault, hread⟩ : ∃ fault, host.readText (.ofString "//[x/a_spec.rb") = .error fault :=
      Surroundings.readText_of_not_ok (by decide +kernel)
    have hsource : (Document.mk "//[x/a_spec.rb" none).source host.toSurroundings = .error fault :=
      hread
    simp only [turn, symbols, Session.symbols, hdocument, hspec, hsource]
    rfl
  have hanswers := congrArg (List.map (·.1.isOk)) hsame
  have hlast : ((start.after host [opened, closed]).turn host symbols).answer.isOk =
      ((start.after host [opened]).turn host symbols).answer.isOk :=
    (List.cons.inj (List.cons.inj hanswers).2).1
  rw [hkept, hlost] at hlast
  cases hlast

end Session

end SpecSkeleton
