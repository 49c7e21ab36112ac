import SpecSkeleton.Outline.State

/-!
# What a history of events leaves shown

The state of an outline is a fold of its events, but only two of them matter: the last activation,
and the last change of the file it activates after that. `refresh_history` says so, and that the
events which the outline passes over are the changes of files it does not show.
-/

namespace SpecSkeleton

namespace EditorEvent

def isActivation : EditorEvent → Bool
  | active _ _ => true
  | changed _ _ => false

/-- The text that an event gives to a file, if it is a change of this file. -/
def textFor? (path : String) : EditorEvent → Option String
  | active _ _ => none
  | changed p text => if p = path then some text else none

end EditorEvent

/-- The text of the last change of a file, and the given one if it is not changed. -/
def latestText (path text : String) (events : List EditorEvent) : String :=
  (events.filterMap (EditorEvent.textFor? path)).getLast?.getD text

theorem latestText_cons (path text : String) (e : EditorEvent) (events : List EditorEvent) :
    latestText path text (e :: events) =
      latestText path ((e.textFor? path).getD text) events := by
  unfold latestText
  rw [List.filterMap_cons]
  cases e.textFor? path with
  | none => rfl
  | some t => simp [List.getLast?_cons]

namespace OutlineState

variable {rule : NameRule} {settings : Settings}

@[simp]
theorem file_ofText (rule : NameRule) (path text : String) :
    (ofText rule path text).file = some path := by
  unfold ofText
  split <;> rfl

/-! ## One event -/

/-- The outline passes over an event just when it is a change of a file that is not shown. -/
theorem refresh?_eq_none_iff {s : OutlineState} {e : EditorEvent} :
    s.refresh? rule settings e = none ↔
      ∃ path text, e = .changed path text ∧ s.file ≠ some path := by
  cases e with
  | active path text =>
    cases path with
    | none => simp [refresh?]
    | some p => by_cases hp : isSpecPath settings.specSuffix p <;> simp [refresh?, hp]
  | changed path text => by_cases h : s.file = some path <;> simp [refresh?, h]

theorem refresh_changed (s : OutlineState) (path text : String) :
    s.refresh rule settings (.changed path text) =
      if s.file = some path then ofText rule path text else s := by
  by_cases h : s.file = some path <;> simp [refresh, refresh?, h]

/-- An activation leaves nothing of the state before it. -/
theorem refresh_active (s : OutlineState) (path text : Option String) :
    s.refresh rule settings (.active path text) =
      match path with
      | none => .empty
      | some p =>
        if isSpecPath settings.specSuffix p then ofText rule p (text.getD "") else .empty := by
  cases path with
  | none => rfl
  | some p => by_cases hp : isSpecPath settings.specSuffix p <;> simp [refresh, refresh?, hp]

theorem refresh_empty {e : EditorEvent} (h : e.isActivation = false) :
    empty.refresh rule settings e = empty := by
  cases e with
  | active path text => simp [EditorEvent.isActivation] at h
  | changed path text => simp [refresh_changed, empty]

theorem refresh_ofText {e : EditorEvent} (h : e.isActivation = false) (path text : String) :
    (ofText rule path text).refresh rule settings e =
      ofText rule path ((e.textFor? path).getD text) := by
  cases e with
  | active p t => simp [EditorEvent.isActivation] at h
  | changed p t =>
    rw [refresh_changed, file_ofText]
    by_cases hp : p = path
    · simp [EditorEvent.textFor?, hp]
    · simp [EditorEvent.textFor?, hp, Ne.symm hp]

/-! ## Events without an activation -/

theorem foldl_refresh_empty {events : List EditorEvent}
    (h : ∀ e ∈ events, e.isActivation = false) :
    events.foldl (refresh rule settings) empty = empty := by
  induction events with
  | nil => rfl
  | cons e events ih =>
    obtain ⟨he, hevents⟩ := List.forall_mem_cons.mp h
    rw [List.foldl_cons, refresh_empty he]
    exact ih hevents

theorem foldl_refresh_ofText {events : List EditorEvent}
    (h : ∀ e ∈ events, e.isActivation = false) (path text : String) :
    events.foldl (refresh rule settings) (ofText rule path text) =
      ofText rule path (latestText path text events) := by
  induction events generalizing text with
  | nil => rfl
  | cons e events ih =>
    obtain ⟨he, hevents⟩ := List.forall_mem_cons.mp h
    rw [List.foldl_cons, refresh_ofText he, latestText_cons]
    exact ih hevents _

/-! ## Whole histories -/

/-- Without an activation nothing is shown, and neither if the last one is of no file or of one
that is no spec file. Otherwise its file is shown with the text of the last change of it, or the
text it was activated with. What stands before the activation does not matter. -/
theorem refresh_history (rule : NameRule) (settings : Settings) :
    (∀ events : List EditorEvent, (∀ e ∈ events, e.isActivation = false) →
      events.foldl (refresh rule settings) empty = empty) ∧
    (∀ (before later : List EditorEvent) (path text : Option String),
      (∀ e ∈ later, e.isActivation = false) →
        (∀ p, path = some p → isSpecPath settings.specSuffix p = false) →
          (before ++ .active path text :: later).foldl (refresh rule settings) empty = empty) ∧
    (∀ (before later : List EditorEvent) (path : String) (text : Option String),
      (∀ e ∈ later, e.isActivation = false) → isSpecPath settings.specSuffix path = true →
        (before ++ .active (some path) text :: later).foldl (refresh rule settings) empty =
          ofText rule path (latestText path (text.getD "") later)) ∧
    (∀ (s : OutlineState) (e : EditorEvent), s.refresh? rule settings e = none ↔
      ∃ path text, e = .changed path text ∧ s.file ≠ some path) := by
  refine ⟨fun events h => foldl_refresh_empty h, fun before later path text h hpath => ?_,
    fun before later path text h hpath => ?_, fun s e => refresh?_eq_none_iff⟩
  · rw [List.foldl_append, List.foldl_cons, refresh_active]
    cases path with
    | none => exact foldl_refresh_empty h
    | some p =>
      simp only [hpath p rfl, Bool.false_eq_true, if_false]
      exact foldl_refresh_empty h
  · rw [List.foldl_append, List.foldl_cons, refresh_active]
    simp only [hpath, if_true]
    exact foldl_refresh_ofText h path _

/-- Another file before, a change of yet another one and an earlier text leave no trace; going on
to a file that is no spec file clears the outline. -/
theorem refresh_history_reactivated :
    let before : List EditorEvent :=
      [.active (some "b_spec.rb") (some "describe 1 do"), .changed "a_spec.rb" "lost"]
    let later : List EditorEvent :=
      [.changed "a_spec.rb" "context 2 do", .changed "b_spec.rb" "it 3 do"]
    (before ++ .active (some "a_spec.rb") none :: later).foldl (refresh .standard .default) empty =
        ofText .standard "a_spec.rb" "context 2 do" ∧
      (before ++ .active (some "a.rb") none :: later).foldl (refresh .standard .default) empty =
        empty ∧
      later.foldl (refresh .standard .default) empty = empty := by
  intro before later
  obtain ⟨hnone, hother, hspec, -⟩ := refresh_history .standard .default
  have hlater : ∀ e ∈ later, e.isActivation = false := by decide
  refine ⟨?_, ?_, hnone later hlater⟩
  · rw [hspec before later "a_spec.rb" none hlater (by decide)]
    rfl
  · refine hother before later (some "a.rb") none hlater fun p hp => ?_
    cases hp
    decide

end OutlineState

end SpecSkeleton
