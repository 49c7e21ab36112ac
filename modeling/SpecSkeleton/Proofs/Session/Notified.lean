import SpecSkeleton.Proofs.Session.Turn

/-!
# An editor that replays what it is sent

An editor that keeps the last state it was sent holds what it would be told if it asked
(`outline_replayed`). Errors come along: right before a state there is the message about its error,
if it has one, and nothing else that its turn sends. Only a request for symbols sends a message
without a state, so one of these may stand before a state without error.
-/

namespace SpecSkeleton

/-- The state that a message has for the editor to show. -/
def EditorMessage.outline? : EditorMessage → Option OutlineState
  | error _ => none
  | outlineChanged s => some s

/-- The states that are sent, in order. -/
def outlines (messages : List EditorMessage) : List OutlineState :=
  messages.filterMap EditorMessage.outline?

theorem outlines_append (messages more : List EditorMessage) :
    outlines (messages ++ more) = outlines messages ++ outlines more :=
  List.filterMap_append

theorem outlines_complaint (s : OutlineState) : outlines s.complaint = [] := by
  unfold OutlineState.complaint
  cases s.error <;> rfl

theorem not_mem_complaint (s shown : OutlineState) : .outlineChanged shown ∉ s.complaint := by
  simp [OutlineState.complaint]

/-- The one state among the messages about a state is this state, and it comes last. -/
theorem eq_of_complaint_append {s shown : OutlineState} {front back : List EditorMessage}
    (h : s.complaint ++ [.outlineChanged s] = front ++ .outlineChanged shown :: back) :
    shown = s ∧ front = s.complaint := by
  obtain ⟨more, hfront, hrest⟩ | ⟨more, hcomplaint, hrest⟩ := List.append_eq_append_iff.mp h
  · cases more with
    | nil =>
      cases hrest
      exact ⟨rfl, by rw [hfront, List.append_nil]⟩
    | cons m more => simp at hrest
  · cases more with
    | nil =>
      cases hrest
      exact ⟨rfl, by rw [hcomplaint, List.append_nil]⟩
    | cons m more =>
      obtain ⟨rfl, -⟩ := List.cons.inj hrest
      exact absurd (hcomplaint ▸ List.mem_append_right _ List.mem_cons_self)
        (not_mem_complaint s shown)

/-- The one message about an error among them comes right before the state. -/
theorem error_of_complaint_append {s : OutlineState} {text : String}
    {front back : List EditorMessage}
    (h : s.complaint ++ [.outlineChanged s] = front ++ .error text :: back) :
    s.error = some text ∧ back = [.outlineChanged s] := by
  unfold OutlineState.complaint at h
  cases herror : s.error with
  | none =>
    rw [herror] at h
    cases front <;> simp at h
  | some t =>
    rw [herror] at h
    cases front with
    | nil =>
      cases h
      exact ⟨rfl, rfl⟩
    | cons m front => cases front <;> simp at h

namespace Session

variable {rule : NameRule} {host : SettingsHost} {s : Session}

/-- All that a run sends, in order. -/
def sent (host : SettingsHost) (s : Session) (requests : List EditorRequest) :
    List EditorMessage :=
  (s.turns host requests).flatMap (·.sent)

theorem sent_cons (host : SettingsHost) (s : Session) (r : EditorRequest)
    (requests : List EditorRequest) :
    s.sent host (r :: requests) =
      (s.turn host r).sent ++ (s.turn host r).session.sent host requests :=
  List.flatMap_cons

/-! ## The last state that is sent -/

theorem getLast?_outlines_turn (h : s.Ready rule) (host : SettingsHost) (r : EditorRequest) :
    (outlines (s.turn host r).sent).getLast?.getD s.state = (s.turn host r).session.state := by
  cases (turn_spec h host r).2 with
  | none hstate hsent => rw [hsent, hstate]; rfl
  | moved _ hsent =>
    rw [hsent, outlines_append, outlines_complaint]
    rfl
  | complained _ _ hstate hsent => rw [hsent, hstate]; rfl

/-- The state after a run is the last one that it sends, or the one before the run. -/
theorem getLast?_outlines (h : s.Ready rule) (host : SettingsHost)
    (requests : List EditorRequest) :
    (outlines (s.sent host requests)).getLast?.getD s.state = (s.after host requests).state := by
  induction requests generalizing s with
  | nil => rfl
  | cons r requests ih =>
    have hrest := ih (turn_spec h host r).1
    rw [sent_cons, outlines_append, List.getLast?_append, Option.getD_or,
      getLast?_outlines_turn h host r]
    exact hrest

/-! ## What is sent together -/

/-- Each message of a run is sent by one of its turns. -/
theorem exists_turn {requests : List EditorRequest} {front back : List EditorMessage}
    {m : EditorMessage} (h : s.sent host requests = front ++ m :: back) :
    ∃ before r after front' back', requests = before ++ r :: after ∧
      front = s.sent host before ++ front' ∧
      ((s.after host before).turn host r).sent = front' ++ m :: back' ∧
      ∃ rest, back = back' ++ rest := by
  induction requests generalizing s front with
  | nil => simp [sent, turns] at h
  | cons r requests ih =>
    -- the message is sent after the first turn or by it
    have hlater (front₁ : List EditorMessage) (hfront : front = (s.turn host r).sent ++ front₁)
        (hrest : (s.turn host r).session.sent host requests = front₁ ++ m :: back) :
        ∃ before r' after front' back', r :: requests = before ++ r' :: after ∧
          front = s.sent host before ++ front' ∧
          ((s.after host before).turn host r').sent = front' ++ m :: back' ∧
          ∃ rest, back = back' ++ rest := by
      obtain ⟨before, r', after, front', back', rfl, rfl, hturn, hback⟩ := ih hrest
      refine ⟨r :: before, r', after, front', back', rfl, ?_, hturn, hback⟩
      rw [hfront, sent_cons, List.append_assoc]
    rw [sent_cons] at h
    obtain ⟨front₁, hfront, hrest⟩ | ⟨back₁, hturn, hback⟩ := List.append_eq_append_iff.mp h
    · exact hlater front₁ hfront hrest
    · cases back₁ with
      | nil => exact hlater [] (by simpa using hturn.symm) hback.symm
      | cons m' back₁ =>
        obtain ⟨rfl, rfl⟩ := List.cons.inj hback
        exact ⟨[], r, requests, front, back₁, rfl, rfl, hturn, _, rfl⟩

/-- A state is sent by a turn that moves on to it and sends nothing else but its error. -/
theorem exists_moved (h : s.Ready rule) {requests : List EditorRequest}
    {front back : List EditorMessage} {shown : OutlineState}
    (hsent : s.sent host requests = front ++ .outlineChanged shown :: back) :
    ∃ before r after, requests = before ++ r :: after ∧
      front = s.sent host before ++ shown.complaint ∧
      ((s.after host before).turn host r).sent = shown.complaint ++ [.outlineChanged shown] := by
  obtain ⟨before, r, after, front', back', rfl, rfl, hturn, -⟩ := exists_turn hsent
  refine ⟨before, r, after, rfl, ?_⟩
  cases (turn_spec (ready_after h host before) host r).2 with
  | none _ hnone =>
    rw [hturn] at hnone
    simp at hnone
  | moved _ hmoved =>
    obtain ⟨hshown, hfront⟩ := eq_of_complaint_append (hmoved.symm.trans hturn)
    rw [hfront, ← hshown]
    exact ⟨rfl, hshown ▸ hmoved⟩
  | complained _ _ _ halone =>
    rw [hturn] at halone
    simp [List.append_eq_singleton_iff] at halone

/-- A message about an error comes right before the state that has it, or it is all that was sent
for a request for symbols. -/
theorem exists_complained (h : s.Ready rule) {requests : List EditorRequest}
    {front back : List EditorMessage} {text : String}
    (hsent : s.sent host requests = front ++ .error text :: back) :
    (∃ shown back', back = .outlineChanged shown :: back' ∧ shown.error = some text) ∨
      ∃ before uri after, requests = before ++ .symbols uri :: after ∧
        front = s.sent host before ∧
        ((s.after host before).turn host (.symbols uri)).sent = [.error text] := by
  obtain ⟨before, r, after, front', back', rfl, rfl, hturn, rest, rfl⟩ := exists_turn hsent
  cases (turn_spec (ready_after h host before) host r).2 with
  | none _ hnone =>
    rw [hturn] at hnone
    simp at hnone
  | moved _ hmoved =>
    obtain ⟨herror, rfl⟩ := error_of_complaint_append (hmoved.symm.trans hturn)
    exact .inl ⟨_, rest, rfl, herror⟩
  | @complained uri text' _ hr _ _ halone =>
    subst hr
    obtain ⟨hfront, hrest⟩ | ⟨_, _, hrest⟩ :=
      List.append_eq_cons_iff.mp (hturn.symm.trans halone)
    · obtain ⟨hsame, -⟩ := List.cons.inj hrest
      rw [hsame, hfront, List.append_nil]
      exact .inr ⟨before, uri, after, rfl, rfl, halone⟩
    · simp at hrest

/-! ## Whole runs -/

/-- After any run the state is the last one that was sent, or still empty if none was; so an editor
that keeps what it is sent has the answer to a request for the outline. A state is sent by a turn
that sends nothing else but, right before it, the message about its error if it has one. A message
about an error is such a one, or all that was sent for a request for symbols. -/
theorem outline_replayed (rule : NameRule) (host : SettingsHost) (level : Option Level)
    (requests : List EditorRequest) :
    let start := fresh rule level
    let s := start.after host requests
    let messages := start.sent host requests
    ((outlines messages).getLast? = some s.state ∨ outlines messages = [] ∧ s.state = .empty) ∧
    (∀ arguments, (s.turn host (.outline arguments)).answer =
      .ok (.outline ((outlines messages).getLast?.getD .empty))) ∧
    (∀ front shown back, messages = front ++ .outlineChanged shown :: back →
      ∃ before r after, requests = before ++ r :: after ∧
        front = start.sent host before ++ shown.complaint ∧
        ((start.after host before).turn host r).sent =
          shown.complaint ++ [.outlineChanged shown]) ∧
    ∀ front text back, messages = front ++ .error text :: back →
      (∃ shown back', back = .outlineChanged shown :: back' ∧ shown.error = some text) ∨
        ∃ before uri after, requests = before ++ .symbols uri :: after ∧
          front = start.sent host before ∧
          ((start.after host before).turn host (.symbols uri)).sent = [.error text] := by
  intro start s messages
  have hready : start.Ready rule := ready_fresh rule level
  have hlast : (outlines messages).getLast?.getD .empty = s.state :=
    getLast?_outlines hready host requests
  refine ⟨?_, fun arguments => ?_, fun front shown back => exists_moved hready,
    fun front text back => exists_complained hready⟩
  · cases hstates : (outlines messages).getLast? with
    | none =>
      rw [hstates] at hlast
      exact .inr ⟨List.getLast?_eq_none_iff.mp hstates, hlast.symm⟩
    | some shown =>
      rw [hstates] at hlast
      exact .inl (congrArg some hlast)
  · rw [hlast]
    rfl

/-- A request for symbols may complain right before a state without error is sent. -/
theorem complaint_before_no_error :
    let host : SettingsHost := ⟨⟨.directory [], ⟨.slash, []⟩⟩, none, fun _ => .ok []⟩
    let failing : NameRule := fun _ _ => .error "boom"
    let uri := "file:///a_spec.rb"
    ∃ front text shown,
      (fresh failing none).sent host [.opened uri "it 'a' do", .symbols uri, .closed uri] =
        front ++ [.error text, .outlineChanged shown] ∧ shown.error = none := by
  intro host failing uri
  -- of each message, the error of the state that it has
  have herrors :
      ((fresh failing none).sent host [.opened uri "it 'a' do", .symbols uri, .closed uri]).map
          (fun m => m.outline?.map (·.error)) =
        [none, some (some "Failed to parse RSpec file: boom")] ++ [none, some none] := by
    decide +kernel
  obtain ⟨front, last, hsent, -, hlast⟩ := List.map_eq_append_iff.mp herrors
  obtain ⟨complaint, _, rfl, hcomplaint, hlast⟩ := List.map_eq_cons_iff.mp hlast
  obtain ⟨state, _, rfl, hstate, hnil⟩ := List.map_eq_cons_iff.mp hlast
  obtain rfl := List.map_eq_nil_iff.mp hnil
  cases complaint with
  | outlineChanged shown => cases hcomplaint
  | error text =>
    cases state with
    | error text => cases hstate
    | outlineChanged shown => exact ⟨front, text, shown, hsent, Option.some.inj hstate⟩

end Session

end SpecSkeleton
