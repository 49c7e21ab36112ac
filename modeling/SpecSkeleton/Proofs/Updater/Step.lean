import SpecSkeleton.Updater.Basic

/-!
# What one step changes

Telling listeners changes nothing but what is recorded of it (`foldl_deliver_eq`). So an event that
is applied moves the state on and leaves the queue, the worker and its stop request alone
(`apply_eq`), and draining a queue applies its events up to the first stop marker (`drain_eq`).
`work?_cases` lists what a step of the worker can do.
-/

namespace SpecSkeleton

namespace QueueItem

/-- The events of a queue. -/
def events (items : List QueueItem) : List EditorEvent :=
  items.filterMap event?

@[simp]
theorem events_nil : events [] = [] := rfl

@[simp]
theorem events_event (e : EditorEvent) (items : List QueueItem) :
    events (.event e :: items) = e :: events items := rfl

@[simp]
theorem events_stop (items : List QueueItem) : events (.stop :: items) = events items := rfl

@[simp]
theorem events_append (items more : List QueueItem) :
    events (items ++ more) = events items ++ events more :=
  List.filterMap_append

/-- The events before the first stop marker. -/
def drained : List QueueItem → List EditorEvent
  | [] => []
  | .stop :: _ => []
  | .event e :: rest => e :: drained rest

/-- What comes after the first stop marker. -/
def undrained : List QueueItem → List QueueItem
  | [] => []
  | .stop :: rest => rest
  | .event _ :: rest => undrained rest

theorem drained_of_not_mem {items : List QueueItem} (h : .stop ∉ items) :
    drained items = events items ∧ undrained items = [] := by
  induction items with
  | nil => exact ⟨rfl, rfl⟩
  | cons i items ih =>
    cases i with
    | stop => exact absurd (List.mem_cons_self ..) h
    | event e =>
      obtain ⟨hdrained, hundrained⟩ := ih fun hm => h (List.mem_cons_of_mem _ hm)
      exact ⟨congrArg (e :: ·) hdrained, hundrained⟩

theorem events_eq_drained_append (items : List QueueItem) :
    events items = drained items ++ events (undrained items) := by
  induction items with
  | nil => rfl
  | cons i items ih =>
    cases i with
    | stop => rfl
    | event e => exact congrArg (e :: ·) ih

theorem count_undrained (items : List QueueItem) :
    (undrained items).count .stop = items.count .stop - 1 := by
  induction items with
  | nil => rfl
  | cons i items ih =>
    cases i with
    | stop => simp [undrained]
    | event e => simpa [undrained] using ih

end QueueItem

namespace Worker

/-- The event that a worker has taken from the queue and not yet applied. -/
def held : Worker → List EditorEvent
  | holding e => [e]
  | _ => []

def isEnded : Worker → Bool
  | ended => true
  | _ => false

end Worker

namespace Updater

/-- The event that the worker has taken and not yet applied, if there is one. -/
def held (u : Updater) : List EditorEvent :=
  (u.worker.map Worker.held).getD []

/-- The events that wait in the queue. -/
def queued (u : Updater) : List EditorEvent :=
  QueueItem.events u.queue

theorem held_of_worker {u : Updater} {w : Worker} (h : u.worker = some w) : u.held = w.held := by
  rw [held, h]
  rfl

theorem held_of_alone {u : Updater} (h : u.worker = none) : u.held = [] := by
  rw [held, h]
  rfl

/-! ## Listeners -/

theorem deliver_eq (u : Updater) (s : OutlineState) (index : Nat) :
    ∃ deliveries journal, u.deliver s index = { u with deliveries, journal } := by
  unfold deliver
  split
  · exact ⟨_, _, rfl⟩
  · exact ⟨_, _, rfl⟩

theorem foldl_deliver_eq (s : OutlineState) (indices : List Nat) (u : Updater) :
    ∃ deliveries journal, indices.foldl (·.deliver s ·) u = { u with deliveries, journal } := by
  induction indices generalizing u with
  | nil => exact ⟨u.deliveries, u.journal, rfl⟩
  | cons i indices ih =>
    obtain ⟨deliveries, journal, hfirst⟩ := deliver_eq u s i
    obtain ⟨deliveries', journal', hrest⟩ := ih { u with deliveries, journal }
    refine ⟨deliveries', journal', ?_⟩
    rw [List.foldl_cons, hfirst, hrest]

theorem deliveries_foldl_deliver (s : OutlineState) (indices : List Nat) (u : Updater) :
    (indices.foldl (·.deliver s ·) u).deliveries = u.deliveries ++ indices.map (⟨·, s⟩) := by
  induction indices generalizing u with
  | nil => exact (List.append_nil _).symm
  | cons i indices ih =>
    have hfirst : (u.deliver s i).deliveries = u.deliveries ++ [⟨i, s⟩] := by
      unfold deliver
      split <;> rfl
    rw [List.foldl_cons, ih, hfirst, List.append_assoc]
    rfl

/-! ## Events -/

theorem accept?_eq_none {u : Updater} {e : EditorEvent} (h : u.accept? e = none) :
    u.state.refresh u.rule u.settings e = u.state := by
  have hnone : u.state.refresh? u.rule u.settings e = none := Option.map_eq_none_iff.mp h
  rw [OutlineState.refresh, hnone]
  rfl

theorem accept?_eq_some {u next : Updater} {e : EditorEvent} (h : u.accept? e = some next) :
    ∃ journal, next = { u with state := u.state.refresh u.rule u.settings e, journal } := by
  obtain ⟨s, hs, rfl⟩ := Option.map_eq_some_iff.mp h
  refine ⟨u.journal ++ u.state.refreshJournal u.rule u.settings e, ?_⟩
  rw [OutlineState.refresh, hs]
  rfl

/-- An event that is applied moves the state on; the rest is records. -/
theorem apply_eq (u : Updater) (e : EditorEvent) :
    ∃ deliveries journal, u.apply e =
      { u with state := u.state.refresh u.rule u.settings e, deliveries, journal } := by
  unfold apply
  cases h : u.accept? e with
  | none => exact ⟨u.deliveries, u.journal, by rw [accept?_eq_none h]⟩
  | some next =>
    obtain ⟨journal, rfl⟩ := accept?_eq_some h
    exact foldl_deliver_eq _ _ _

/-- If the event concerns the outline, every listener is told of the new state once, in order. -/
theorem deliveries_apply (u : Updater) (e : EditorEvent) :
    (u.apply e).deliveries = u.deliveries ++
      match u.state.refresh? u.rule u.settings e with
      | none => []
      | some next => (List.range u.listeners.length).map (⟨·, next⟩) := by
  have hrefresh : u.accept? e = (u.state.refresh? u.rule u.settings e).map fun next =>
      ({ u with state := next }).log (u.state.refreshJournal u.rule u.settings e) := rfl
  rw [apply, hrefresh]
  cases u.state.refresh? u.rule u.settings e with
  | none => exact (List.append_nil _).symm
  | some next => exact deliveries_foldl_deliver next _ _

/-- The events of a queue up to its first stop marker are applied, and the marker is taken out. -/
theorem drain_eq (items : List QueueItem) (u : Updater) :
    ∃ deliveries journal, u.drain items =
      { u with
        state := (QueueItem.drained items).foldl (OutlineState.refresh u.rule u.settings) u.state
        queue := QueueItem.undrained items
        deliveries, journal } := by
  induction items generalizing u with
  | nil => exact ⟨u.deliveries, u.journal, rfl⟩
  | cons i items ih =>
    cases i with
    | stop => exact ⟨u.deliveries, u.journal, rfl⟩
    | event e =>
      obtain ⟨deliveries, journal, hfirst⟩ := apply_eq u e
      rw [drain, hfirst]
      exact ih _

/-- An event that is posted to an empty queue and taken out of it at once is applied. -/
theorem process_post {u : Updater} (h : u.queue = []) (e : EditorEvent) :
    ∃ deliveries journal, (u.post e).process =
      { u with state := u.state.refresh u.rule u.settings e, deliveries, journal } := by
  obtain ⟨deliveries, journal, hdrain⟩ := drain_eq [.event e] (u.post e)
  have hposted : (u.post e).queue = [.event e] := by rw [post, h]; rfl
  refine ⟨deliveries, journal, ?_⟩
  rw [process, hposted, hdrain, h]
  rfl

theorem deliveries_process_post {u : Updater} (h : u.queue = []) (e : EditorEvent) :
    (u.post e).process.deliveries = u.deliveries ++
      match u.state.refresh? u.rule u.settings e with
      | none => []
      | some next => (List.range u.listeners.length).map (⟨·, next⟩) := by
  have hprocess : (u.post e).process = { (u.post e).apply e with queue := [] } := by
    rw [process, post, h]
    rfl
  rw [hprocess]
  exact deliveries_apply (u.post e) e

/-! ## Starting and stopping -/

theorem start_alone {u : Updater} (h : u.worker = none) :
    u.start = { u with worker := some .idle } := by
  rw [start, h]

theorem start_again {u : Updater} {w : Worker} (h : u.worker = some w) : u.start = u := by
  rw [start, h]

/-- The first request to a worker puts the marker into the queue. -/
theorem requestStop_first {u : Updater} {w : Worker} (h : u.worker = some w)
    (hflag : u.stopRequested = false) :
    u.requestStop = { u with queue := u.queue ++ [.stop], stopRequested := true } := by
  simp [requestStop, h, hflag]

theorem requestStop_again {u : Updater} (hflag : u.stopRequested = true) : u.requestStop = u := by
  unfold requestStop
  split
  · rfl
  · rw [if_pos hflag]

theorem join_ended {u : Updater} (h : u.worker = some .ended) (timeout : Value) :
    u.join timeout = { u with worker := none, stopRequested := false } := by
  simp only [join, h]

/-- Waiting for a worker that goes on changes nothing; the log is told of it. -/
theorem join_running {u : Updater} {w : Worker} (h : u.worker = some w) (hw : w.isEnded = false)
    (timeout : Value) : ∃ journal, u.join timeout = { u with journal } := by
  unfold join
  rw [h]
  cases w with
  | ended => simp [Worker.isEnded] at hw
  | _ => exact ⟨_, by rw [log, h]⟩

/-! ## The worker -/

/-- A step of the worker takes the stop marker and ends it, or takes an event, or applies the one
it holds, or goes on with telling listeners, which leaves it neither holding an event nor ended. -/
theorem work?_cases {u v : Updater} (h : u.work? = some v) :
    (∃ rest, u.worker = some .idle ∧ u.queue = .stop :: rest ∧
        v = { u with queue := rest, worker := some .ended }) ∨
      (∃ e rest, u.worker = some .idle ∧ u.queue = .event e :: rest ∧
        v = { u with queue := rest, worker := some (.holding e) }) ∨
      (∃ e w journal, u.worker = some (.holding e) ∧ w.held = [] ∧ w.isEnded = false ∧
        v = { u with
          state := u.state.refresh u.rule u.settings e
          worker := some w
          journal }) ∨
      ∃ w w' deliveries journal, u.worker = some w ∧ w.held = [] ∧ w.isEnded = false ∧
        w'.held = [] ∧ w'.isEnded = false ∧
        v = { u with worker := some w', deliveries, journal } := by
  unfold work? at h
  split at h
  · cases h
  · cases h
  next hw =>
    split at h
    · cases h
    next rest hq => cases h; exact .inl ⟨rest, hw, hq, rfl⟩
    next e rest hq => cases h; exact .inr (.inl ⟨e, rest, hw, hq, rfl⟩)
  next e hw =>
    refine .inr (.inr (.inl ?_))
    split at h
    next ha =>
      cases h
      exact ⟨e, .idle, u.journal, hw, rfl, rfl, by rw [accept?_eq_none ha]⟩
    next next ha =>
      cases h
      obtain ⟨journal, rfl⟩ := accept?_eq_some ha
      exact ⟨e, _, journal, hw, rfl, rfl, rfl⟩
  next s index hw =>
    refine .inr (.inr (.inr ?_))
    split at h
    · cases h
      obtain ⟨deliveries, journal, htold⟩ := deliver_eq u s index
      unfold tell
      rw [htold]
      split
      · exact ⟨_, .waiting s index, deliveries, journal, hw, rfl, rfl, rfl, rfl, rfl⟩
      · exact ⟨_, .telling s (index + 1), deliveries, journal, hw, rfl, rfl, rfl, rfl, rfl⟩
    · cases h
      exact ⟨_, .idle, u.deliveries, u.journal, hw, rfl, rfl, rfl, rfl, rfl⟩
  next s index hw =>
    refine .inr (.inr (.inr ?_))
    split at h
    · cases h
      exact ⟨_, .telling s (index + 1), u.deliveries, u.journal, hw, rfl, rfl, rfl, rfl, rfl⟩
    · cases h

end Updater

end SpecSkeleton
