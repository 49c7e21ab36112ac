import SpecSkeleton.Proofs.Session.Shown

/-!
# What one turn does to the outline

Whatever is asked of a session, its updater comes out of the turn with an empty queue and one
listener (`Ready`), so that an event which is handed to it is applied and told at once. A turn then
has one of three effects on the outline (`Turn.Effect`): none, a new state that is sent together
with its error, or, when symbols are asked for, a message alone. `turn_spec` says that there are no
others, and `turn_fault` that a turn that raises has none.
-/

namespace SpecSkeleton

/-! ## What a state sends -/

/-- The message about the error of a state, if it has one. -/
def OutlineState.complaint (s : OutlineState) : List EditorMessage :=
  s.error.toList.map .error

namespace OutlineState

variable {rule : NameRule} {settings : Settings}

theorem error_ofText_ne (rule : NameRule) (path text : String) :
    (ofText rule path text).error ≠ some "" := by
  unfold ofText
  split
  · exact nofun
  · simp

/-- The error of a state that an event leads to has a text. -/
theorem error_refresh?_ne {s next : OutlineState} {e : EditorEvent}
    (h : s.refresh? rule settings e = some next) : next.error ≠ some "" := by
  cases e with
  | active path text =>
    cases path with
    | none => cases h; exact nofun
    | some path =>
      simp only [refresh?] at h
      split at h <;> cases h
      · exact error_ofText_ne rule path _
      · exact nofun
  | changed path text =>
    simp only [refresh?] at h
    split at h <;> cases h
    exact error_ofText_ne rule path text

theorem messages_eq {s : OutlineState} (h : s.error ≠ some "") :
    s.messages = s.complaint ++ [.outlineChanged s] := by
  unfold messages complaint
  cases herror : s.error with
  | none => rfl
  | some text =>
    have htext : text.isEmpty = false := by
      rw [Bool.eq_false_iff]
      exact fun hempty => h (herror.trans (congrArg some (String.isEmpty_iff.mp hempty)))
    simp [htext]

end OutlineState

/-- What a turn for a request does to an outline in an old state. -/
inductive Turn.Effect (old : OutlineState) (r : EditorRequest) (t : Turn) : Prop where
  | none (hstate : t.session.state = old) (hsent : t.sent = [])
  | moved {answer : EditorAnswer} (hanswer : t.answer = .ok answer)
      (hsent : t.sent = t.session.state.complaint ++ [.outlineChanged t.session.state])
  | complained {uri text : String} {answer : EditorAnswer} (hr : r = .symbols uri)
      (hanswer : t.answer = .ok answer) (hstate : t.session.state = old)
      (hsent : t.sent = [.error text])

namespace Session

variable {rule : NameRule} {host : SettingsHost} {s s' : Session}

/-- What stands in a session between its turns, whatever was asked of it. -/
structure Ready (rule : NameRule) (s : Session) : Prop where
  rule_eq : s.updater.rule = rule
  settings_eq : s.updater.settings = s.settings
  queue_eq : s.updater.queue = []
  listeners_length : s.updater.listeners.length = 1

theorem ready_fresh (rule : NameRule) (level : Option Level) : (fresh rule level).Ready rule :=
  ⟨rfl, rfl, rfl, rfl⟩

/-- The workspace and the log play no part in it. -/
theorem Ready.congr (h : s.Ready rule) (hupdater : s'.updater = s.updater)
    (hsettings : s'.settings = s.settings) : s'.Ready rule := by
  obtain ⟨hrule, hsame, hqueue, hlisteners⟩ := h
  exact ⟨hupdater ▸ hrule, hupdater ▸ hsettings ▸ hsame, hupdater ▸ hqueue, hupdater ▸ hlisteners⟩

/-! ## Presenting an event -/

theorem Ready.present (h : s.Ready rule) (e : EditorEvent) (answer : Session → EditorAnswer) :
    (s.present e answer).session.Ready rule ∧
      (s.present e answer).session.state = s.state.refresh rule s.settings e := by
  obtain ⟨hrule, hsettings, hqueue, hlisteners⟩ := h
  obtain ⟨deliveries, journal, hnext⟩ := Updater.process_post hqueue e
  have hupdater : (s.present e answer).session.updater = (s.updater.post e).process := rfl
  rw [hnext] at hupdater
  refine ⟨⟨?_, ?_, ?_, ?_⟩, ?_⟩
  · rw [hupdater]
    exact hrule
  · rw [hupdater]
    exact hsettings
  · rw [hupdater]
    exact hqueue
  · rw [hupdater]
    exact hlisteners
  · rw [state, hupdater, ← hrule, ← hsettings]
    rfl

/-- The one listener is told of each new state, and passes it on. -/
theorem Ready.present_sent (h : s.Ready rule) (e : EditorEvent)
    (answer : Session → EditorAnswer) :
    (s.present e answer).sent =
      ((s.state.refresh? rule s.settings e).map OutlineState.messages).getD [] := by
  have htold := Updater.deliveries_process_post h.queue_eq e
  have hstate : s.updater.state = s.state := rfl
  have hsent : (s.present e answer).sent =
      ((s.updater.post e).process.deliveries.drop s.updater.deliveries.length).flatMap
        fun d => d.state.messages := rfl
  rw [h.rule_eq, h.settings_eq, h.listeners_length, hstate] at htold
  rw [hsent, htold, List.drop_left]
  cases s.state.refresh? rule s.settings e with
  | none => rfl
  | some next => exact List.append_nil _

theorem Ready.present_effect (h : s.Ready rule) (r : EditorRequest) (e : EditorEvent)
    (answer : Session → EditorAnswer) : (s.present e answer).Effect s.state r := by
  have hstate := (h.present e answer).2
  have hsent := h.present_sent e answer
  rw [OutlineState.refresh] at hstate
  cases hnext : s.state.refresh? rule s.settings e with
  | none =>
    rw [hnext] at hstate hsent
    exact .none hstate hsent
  | some next =>
    rw [hnext] at hstate hsent
    have hstate : (s.present e answer).session.state = next := hstate
    refine .moved rfl ?_
    rw [hsent, hstate]
    exact OutlineState.messages_eq (OutlineState.error_refresh?_ne hnext)

/-! ## One turn -/

/-- What holds of a turn of a session that is ready. -/
def TurnSpec (rule : NameRule) (s : Session) (r : EditorRequest) (t : Turn) : Prop :=
  t.session.Ready rule ∧ t.Effect s.state r

/-- The session from which an event is presented may have another workspace and log. -/
theorem Ready.present_spec (h : s.Ready rule) (workspace : Workspace) (journal : Journal)
    (r : EditorRequest) (e : EditorEvent) (answer : Session → EditorAnswer) :
    TurnSpec rule s r (({ s with workspace, journal } : Session).present e answer) :=
  have h' : ({ s with workspace, journal } : Session).Ready rule := h.congr rfl rfl
  ⟨(h'.present e answer).1, h'.present_effect r e answer⟩

/-- A turn that moves nothing and sends nothing. -/
theorem Ready.quiet_spec (h : s.Ready rule) {t : Turn} (hupdater : t.session.updater = s.updater)
    (hsettings : t.session.settings = s.settings) (r : EditorRequest) (hsent : t.sent = []) :
    TurnSpec rule s r t :=
  ⟨h.congr hupdater hsettings, .none (congrArg Updater.state hupdater) hsent⟩

theorem Ready.opened_spec (h : s.Ready rule) (uri text : String) :
    TurnSpec rule s (.opened uri text) (s.opened uri text) := by
  unfold Session.opened
  split
  · exact h.present_spec _ _ _ _ _
  · exact h.quiet_spec rfl rfl _ rfl
  · exact h.quiet_spec rfl rfl _ rfl

theorem Ready.changed_spec (h : s.Ready rule) (host : SettingsHost) (uri text : String) :
    TurnSpec rule s (.changed uri text) (s.changed host uri text) := by
  unfold Session.changed
  dsimp only
  split
  · exact h.present_spec _ _ _ _ _
  · exact h.quiet_spec rfl rfl _ rfl

theorem Ready.closed_spec (h : s.Ready rule) (uri : String) :
    TurnSpec rule s (.closed uri) (s.closed uri) := by
  unfold Session.closed
  dsimp only
  split
  · exact h.quiet_spec rfl rfl _ rfl
  · split
    · exact h.present_spec _ _ _ _ _
    · exact h.quiet_spec rfl rfl _ rfl

theorem Ready.symbols_spec (h : s.Ready rule) (host : SettingsHost) (uri : String) :
    TurnSpec rule s (.symbols uri) (s.symbols host uri) := by
  unfold Session.symbols
  split
  · exact h.quiet_spec rfl rfl _ rfl
  split
  · split
    · unfold symbolsOf
      dsimp only
      split
      · split <;> exact h.quiet_spec rfl rfl _ rfl
      · exact ⟨h.congr rfl rfl, .complained rfl rfl rfl rfl⟩
    · exact h.quiet_spec rfl rfl _ rfl
  · exact h.quiet_spec rfl rfl _ rfl

theorem Ready.refresh_spec (h : s.Ready rule) (host : SettingsHost) (arguments : List Value) :
    TurnSpec rule s (.refresh arguments) (s.refresh host arguments) := by
  unfold Session.refresh
  dsimp only
  split
  · split
    · exact h.present_spec _ _ _ _ _
    · exact h.quiet_spec rfl rfl _ rfl
  · unfold Session.refreshShown
    dsimp only
    split
    · exact h.quiet_spec rfl rfl _ rfl
    split
    · split
      · exact h.present_spec _ _ _ _ _
      · exact h.quiet_spec rfl rfl _ rfl
    · exact h.quiet_spec rfl rfl _ rfl

/-- Entering a workspace sends nothing, and the updater takes over settings that are found. -/
theorem Ready.enter_spec (h : s.Ready rule) (host : SettingsHost) (r : EditorRequest)
    (root : String) : TurnSpec rule s r (s.enter host root) := by
  unfold Session.enter
  split
  · exact h.quiet_spec rfl rfl _ rfl
  dsimp only
  split
  · exact ⟨⟨h.rule_eq, rfl, h.queue_eq, h.listeners_length⟩, .none rfl rfl⟩
  all_goals exact h.quiet_spec rfl rfl _ rfl

theorem turn_spec (h : s.Ready rule) (host : SettingsHost) (r : EditorRequest) :
    TurnSpec rule s r (s.turn host r) := by
  cases r with
  | enter root =>
    unfold turn
    dsimp only
    split
    · exact h.quiet_spec rfl rfl _ rfl
    · exact h.enter_spec host _ _
  | opened uri text => exact h.opened_spec uri text
  | changed uri text => exact h.changed_spec host uri text
  | closed uri => exact h.closed_spec uri
  | symbols uri => exact h.symbols_spec host uri
  | refresh arguments => exact h.refresh_spec host arguments
  | outline arguments => exact h.quiet_spec rfl rfl _ rfl

/-- A turn that raises leaves the outline alone and sends nothing. -/
theorem turn_fault (h : s.Ready rule) {r : EditorRequest} {fault : SessionFault}
    (hfault : (s.turn host r).answer = .error fault) :
    (s.turn host r).session.state = s.state ∧ (s.turn host r).sent = [] := by
  cases (turn_spec h host r).2 with
  | none hstate hsent => exact ⟨hstate, hsent⟩
  | moved hanswer => cases hfault.symm.trans hanswer
  | complained _ hanswer => cases hfault.symm.trans hanswer

theorem ready_after (h : s.Ready rule) (host : SettingsHost) (requests : List EditorRequest) :
    (s.after host requests).Ready rule := by
  induction requests generalizing s with
  | nil => exact h
  | cons r requests ih => exact ih (turn_spec h host r).1

end Session

end SpecSkeleton
