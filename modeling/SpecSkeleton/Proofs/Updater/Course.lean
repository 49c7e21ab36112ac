import SpecSkeleton.Proofs.Updater.Step

/-!
# The course of an updater

An updater with its worker goes on by single moves: calls of one controlling thread, which waits
inside a stop until it returns; posts, subscriptions and releases, which may come at any time; and
steps of the worker. A listener may take as long as it likes, since any number of moves can come
between two steps of the worker. A course keeps the history beside the updater.

`Orderly` is the invariant: the events applied, held and queued are those posted, in this order, the
state is the fold of those applied, and `StopPhase` says where the stop marker is. `orderly_step`
says what one move preserves; `course_in_order` is about whole courses.
-/

namespace SpecSkeleton

inductive Move where
  | post (e : EditorEvent)
  | subscribe (listener : Listener)
  | release
  | process
  | start
  /-- A stop is called, with the time that it gives the worker; null is all the time it needs. -/
  | stop (timeout : Value)
  | stopReturns
  | work

structure Course where
  updater : Updater
  /-- The time given by the stop that has not returned yet, if there is one. -/
  stopping : Option Value := none
  posted : List EditorEvent := []
  applied : List EditorEvent := []
  /-- What had been posted when the last worker that was started was first asked to stop. -/
  asked : Option (List EditorEvent) := none

namespace Course

/-- Whether a stop can return: the worker has ended, or the time it was given can be over. -/
def mayReturn (u : Updater) : Value → Bool
  | .null => u.worker.any Worker.isEnded
  | _ => true

/-- What one move leads to, none if it cannot be made now. -/
def step? (c : Course) : Move → Option Course
  | .post e => some { c with updater := c.updater.post e, posted := c.posted ++ [e] }
  | .subscribe listener => some { c with updater := c.updater.subscribe listener }
  | .release => some { c with updater := c.updater.release }
  | .process =>
    if c.stopping.isSome then none
    else
      some { c with
        updater := c.updater.process
        applied := c.applied ++ QueueItem.drained c.updater.queue }
  | .start =>
    if c.stopping.isSome then none
    else
      some { c with
        updater := c.updater.start
        asked := if c.updater.worker.isNone then none else c.asked }
  | .stop timeout =>
    if c.stopping.isSome then none
    else if c.updater.worker.isNone then some c
    else
      some { c with
        updater := c.updater.requestStop
        stopping := some timeout
        asked := some (c.asked.getD c.posted) }
  | .stopReturns =>
    match c.stopping with
    | none => none
    | some timeout =>
      if mayReturn c.updater timeout then
        some { c with updater := c.updater.join timeout, stopping := none }
      else none
  | .work =>
    c.updater.work?.map fun u => { c with updater := u, applied := c.applied ++ c.updater.held }

/-- The courses that lead from one by moves that are allowed where they are made. -/
inductive Reaches (allowed : Course → Move → Prop) (c₀ : Course) : Course → Prop where
  | refl : Reaches allowed c₀ c₀
  | step {c c' : Course} {m : Move} : Reaches allowed c₀ c → allowed c m → c.step? m = some c' →
      Reaches allowed c₀ c'

/-- Draining on the caller's side only while there is no worker. -/
def InlineAlone (c : Course) (m : Move) : Prop :=
  m = .process → c.updater.worker = none

/-! ## The invariant -/

/-- Where the stop marker is. While a worker that was asked to stop runs, exactly one marker is
queued, behind the rest of what had been posted when it was asked; else there is none. -/
inductive StopPhase (c : Course) : Prop where
  | alone (hworker : c.updater.worker = none) (hflag : c.updater.stopRequested = false)
      (hqueue : .stop ∉ c.updater.queue) (hstopping : c.stopping = none)
  | running (w : Worker) (hworker : c.updater.worker = some w) (hw : w.isEnded = false)
      (hflag : c.updater.stopRequested = false) (hqueue : .stop ∉ c.updater.queue)
      (hstopping : c.stopping = none) (hasked : c.asked = none)
  | asked (w : Worker) (early late : List QueueItem) (hworker : c.updater.worker = some w)
      (hw : w.isEnded = false) (hflag : c.updater.stopRequested = true)
      (hqueue : c.updater.queue = early ++ .stop :: late) (hearly : .stop ∉ early)
      (hlate : .stop ∉ late)
      (hasked : c.asked = some (c.applied ++ w.held ++ QueueItem.events early))
  | ended (hworker : c.updater.worker = some .ended) (hflag : c.updater.stopRequested = true)
      (hqueue : .stop ∉ c.updater.queue) (hasked : c.asked = some c.applied)

structure Orderly (u₀ : Updater) (c : Course) : Prop where
  rule : c.updater.rule = u₀.rule
  settings : c.updater.settings = u₀.settings
  order : c.applied ++ c.updater.held ++ c.updater.queued = c.posted
  state : c.updater.state =
    c.applied.foldl (OutlineState.refresh u₀.rule u₀.settings) u₀.state
  phase : StopPhase c

variable {u₀ : Updater} {c c' : Course}

theorem StopPhase.of_alone (h : StopPhase c) (halone : c.updater.worker = none) :
    c.updater.stopRequested = false ∧ .stop ∉ c.updater.queue ∧ c.stopping = none := by
  cases h with
  | alone _ hflag hqueue hstopping => exact ⟨hflag, hqueue, hstopping⟩
  | running w hworker => simp [halone] at hworker
  | asked w early late hworker => simp [halone] at hworker
  | ended hworker => simp [halone] at hworker

/-- A worker that goes on was not asked to stop, or its marker is still queued. -/
theorem StopPhase.of_running (h : StopPhase c) {w : Worker} (hworker : c.updater.worker = some w)
    (hw : w.isEnded = false) :
    (c.updater.stopRequested = false ∧ .stop ∉ c.updater.queue ∧ c.stopping = none ∧
        c.asked = none) ∨
      ∃ early late, c.updater.stopRequested = true ∧ c.updater.queue = early ++ .stop :: late ∧
        .stop ∉ early ∧ .stop ∉ late ∧
        c.asked = some (c.applied ++ w.held ++ QueueItem.events early) := by
  cases h with
  | alone hnone => simp [hnone] at hworker
  | running _ _ _ hflag hqueue hstopping hasked => exact .inl ⟨hflag, hqueue, hstopping, hasked⟩
  | asked w' early late hsome _ hflag hqueue hearly hlate hasked =>
    obtain rfl : w' = w := Option.some.inj (hsome.symm.trans hworker)
    exact .inr ⟨early, late, hflag, hqueue, hearly, hlate, hasked⟩
  | ended hended =>
    obtain rfl : .ended = w := Option.some.inj (hended.symm.trans hworker)
    cases hw

theorem not_mem_append_event {items : List QueueItem} (h : .stop ∉ items) (e : EditorEvent) :
    QueueItem.stop ∉ items ++ [.event e] := by
  simpa using h

/-- Who listens does not matter. -/
theorem Orderly.of_listeners (h : Orderly u₀ c) (listeners : List Listener) (released : Bool) :
    Orderly u₀ { c with updater := { c.updater with listeners, released } } where
  rule := h.rule
  settings := h.settings
  order := h.order
  state := h.state
  phase := by
    cases h.phase with
    | alone hworker hflag hqueue hstopping => exact .alone hworker hflag hqueue hstopping
    | running w hworker hw hflag hqueue hstopping hasked =>
      exact .running w hworker hw hflag hqueue hstopping hasked
    | asked w early late hworker hw hflag hqueue hearly hlate hasked =>
      exact .asked w early late hworker hw hflag hqueue hearly hlate hasked
    | ended hworker hflag hqueue hasked => exact .ended hworker hflag hqueue hasked

theorem Orderly.post (h : Orderly u₀ c) (e : EditorEvent) :
    Orderly u₀ { c with updater := c.updater.post e, posted := c.posted ++ [e] } where
  rule := h.rule
  settings := h.settings
  state := h.state
  order := by
    have horder := congrArg (· ++ [e]) h.order
    simpa [Updater.post, Updater.queued, Updater.held] using horder
  phase := by
    cases h.phase with
    | alone hworker hflag hqueue hstopping =>
      exact .alone hworker hflag (not_mem_append_event hqueue e) hstopping
    | running w hworker hw hflag hqueue hstopping hasked =>
      exact .running w hworker hw hflag (not_mem_append_event hqueue e) hstopping hasked
    | asked w early late hworker hw hflag hqueue hearly hlate hasked =>
      refine .asked w early (late ++ [.event e]) hworker hw hflag ?_ hearly
        (not_mem_append_event hlate e) hasked
      simp [Updater.post, hqueue]
    | ended hworker hflag hqueue hasked =>
      exact .ended hworker hflag (not_mem_append_event hqueue e) hasked

/-- Draining without a worker applies all that is queued. -/
theorem Orderly.process (h : Orderly u₀ c) (halone : c.updater.worker = none) :
    Orderly u₀ { c with
      updater := c.updater.process
      applied := c.applied ++ QueueItem.drained c.updater.queue } := by
  obtain ⟨hflag, hqueue, hstopping⟩ := h.phase.of_alone halone
  obtain ⟨hdrained, hundrained⟩ := QueueItem.drained_of_not_mem hqueue
  obtain ⟨deliveries, journal, hdrain⟩ := Updater.drain_eq c.updater.queue c.updater
  have horder := h.order
  rw [Updater.held_of_alone halone, List.append_nil] at horder
  rw [Updater.process, hdrain, hdrained, hundrained]
  exact
    { rule := h.rule
      settings := h.settings
      order := by simpa [Updater.held, Updater.queued, halone] using horder
      state := by rw [List.foldl_append, ← h.state, h.rule, h.settings]
      phase := .alone halone hflag (List.not_mem_nil) hstopping }

theorem Orderly.start (h : Orderly u₀ c) :
    Orderly u₀ { c with
      updater := c.updater.start
      asked := if c.updater.worker.isNone then none else c.asked } := by
  cases hworker : c.updater.worker with
  | some w =>
    -- There is a worker already, and nothing happens.
    rw [Updater.start_again hworker]
    exact h
  | none =>
    obtain ⟨hflag, hqueue, hstopping⟩ := h.phase.of_alone hworker
    rw [Updater.start_alone hworker]
    exact
      { rule := h.rule
        settings := h.settings
        order := by simpa [Updater.held, Updater.queued, hworker, Worker.held] using h.order
        state := h.state
        phase := .running .idle rfl rfl hflag hqueue hstopping rfl }

/-- The first stop of a worker puts its marker behind all that has been posted; a later one finds
the marker there, or the worker ended. -/
theorem Orderly.stop (h : Orderly u₀ c) {w : Worker} (hw : c.updater.worker = some w)
    (timeout : Value) :
    Orderly u₀ { c with
      updater := c.updater.requestStop
      stopping := some timeout
      asked := some (c.asked.getD c.posted) } := by
  have horder := h.order
  cases h.phase with
  | alone hworker => simp [hw] at hworker
  | running w' hworker hrun hflag hqueue _ hasked =>
    rw [Updater.held_of_worker hworker] at horder
    rw [Updater.requestStop_first hworker hflag]
    exact
      { rule := h.rule
        settings := h.settings
        order := by simpa [Updater.held, Updater.queued, hworker] using horder
        state := h.state
        phase := .asked w' c.updater.queue [] hworker hrun rfl rfl hqueue List.not_mem_nil
          (by rw [hasked, Option.getD_none, ← horder]; rfl) }
  | asked w' early late hworker hrun hflag hqueue hearly hlate hasked =>
    rw [Updater.requestStop_again hflag]
    exact ⟨h.rule, h.settings, h.order, h.state,
      .asked w' early late hworker hrun hflag hqueue hearly hlate (by rw [hasked]; rfl)⟩
  | ended hworker hflag hqueue hasked =>
    rw [Updater.requestStop_again hflag]
    exact ⟨h.rule, h.settings, h.order, h.state,
      .ended hworker hflag hqueue (by rw [hasked]; rfl)⟩

theorem process_eq_some (h : c.step? .process = some c') :
    c' = { c with
      updater := c.updater.process
      applied := c.applied ++ QueueItem.drained c.updater.queue } := by
  simp only [step?] at h
  split at h
  · cases h
  · cases h
    rfl

theorem start_eq_some (h : c.step? .start = some c') :
    c' = { c with
      updater := c.updater.start
      asked := if c.updater.worker.isNone then none else c.asked } := by
  simp only [step?] at h
  split at h
  · cases h
  · cases h
    rfl

/-- A stop without a worker does nothing. -/
theorem stop_eq_some {timeout : Value} (h : c.step? (.stop timeout) = some c') :
    c' = c ∨ ∃ w, c.updater.worker = some w ∧
      c' = { c with
        updater := c.updater.requestStop
        stopping := some timeout
        asked := some (c.asked.getD c.posted) } := by
  simp only [step?] at h
  split at h
  · cases h
  · cases hworker : c.updater.worker with
    | none =>
      rw [hworker] at h
      cases h
      exact .inl rfl
    | some w =>
      rw [hworker] at h
      cases h
      exact .inr ⟨w, rfl, rfl⟩

theorem stopReturns_eq_some (h : c.step? .stopReturns = some c') :
    ∃ timeout, c.stopping = some timeout ∧ mayReturn c.updater timeout = true ∧
      c' = { c with updater := c.updater.join timeout, stopping := none } := by
  simp only [step?] at h
  split at h
  · cases h
  next timeout hstopping =>
    split at h
    next hmay => cases h; exact ⟨timeout, hstopping, hmay, rfl⟩
    · cases h

/-- A stop that returns gives up a worker that has ended, and leaves one that has not. -/
theorem Orderly.stopReturns (h : Orderly u₀ c) {timeout : Value}
    (hstop : c.stopping = some timeout) :
    Orderly u₀ { c with updater := c.updater.join timeout, stopping := none } ∧
      ((c.updater.join timeout).worker = none →
        c.asked = some c.applied ∧ .stop ∉ (c.updater.join timeout).queue) := by
  cases h.phase with
  | alone _ _ _ hstopping => simp [hstop] at hstopping
  | running _ _ _ _ _ hstopping => simp [hstop] at hstopping
  | asked w early late hworker hrun hflag hqueue hearly hlate hasked =>
    obtain ⟨journal, hjoin⟩ := Updater.join_running hworker hrun timeout
    rw [hjoin]
    refine ⟨⟨h.rule, h.settings, h.order, h.state,
      .asked w early late hworker hrun hflag hqueue hearly hlate hasked⟩, fun hnone => ?_⟩
    simp [hworker] at hnone
  | ended hworker hflag hqueue hasked =>
    have horder : Updater.held { c.updater with worker := none, stopRequested := false } =
        c.updater.held := by
      simp [Updater.held, hworker, Worker.held]
    rw [Updater.join_ended hworker]
    refine ⟨⟨h.rule, h.settings, ?_, h.state, .alone rfl rfl hqueue rfl⟩, fun _ => ⟨hasked, hqueue⟩⟩
    rw [horder]
    exact h.order

/-! ## Steps of the worker -/

/-- The marker is taken when nothing is left of what stood before it. -/
theorem Orderly.takesMarker (h : Orderly u₀ c) {rest : List QueueItem}
    (hworker : c.updater.worker = some .idle) (hfirst : c.updater.queue = .stop :: rest) :
    Orderly u₀ { c with
      updater := { c.updater with queue := rest, worker := some .ended }
      applied := c.applied ++ c.updater.held } := by
  have hheld : c.updater.held = [] := Updater.held_of_worker hworker
  have horder := h.order
  obtain ⟨-, hqueue, -⟩ | ⟨early, late, hflag, hqueue, hearly, hlate, hasked⟩ :=
    h.phase.of_running hworker rfl
  · simp [hfirst] at hqueue
  · cases early with
    | cons i early =>
      rw [hfirst] at hqueue
      cases hqueue
      simp at hearly
    | nil =>
      rw [hfirst] at hqueue
      cases hqueue
      refine ⟨h.rule, h.settings, ?_, ?_, .ended rfl hflag hlate ?_⟩
      · simpa [hheld, Updater.held, Updater.queued, hfirst, Worker.held] using horder
      · simpa [hheld] using h.state
      · simpa [hheld, Worker.held] using hasked

/-- An event moves from the front of the queue into the worker's hand. -/
theorem Orderly.takesEvent (h : Orderly u₀ c) {e : EditorEvent} {rest : List QueueItem}
    (hworker : c.updater.worker = some .idle) (hfirst : c.updater.queue = .event e :: rest) :
    Orderly u₀ { c with
      updater := { c.updater with queue := rest, worker := some (.holding e) }
      applied := c.applied ++ c.updater.held } := by
  have hheld : c.updater.held = [] := Updater.held_of_worker hworker
  have horder := h.order
  refine ⟨h.rule, h.settings, ?_, ?_, ?_⟩
  · simpa [hheld, Updater.held, Updater.queued, hfirst, Worker.held] using horder
  · simpa [hheld] using h.state
  · obtain ⟨hflag, hqueue, hstopping, hasked⟩ |
      ⟨early, late, hflag, hqueue, hearly, hlate, hasked⟩ := h.phase.of_running hworker rfl
    · rw [hfirst] at hqueue
      have hqueue := fun hm => hqueue (List.mem_cons_of_mem _ hm)
      exact .running _ rfl rfl hflag hqueue hstopping hasked
    · cases early with
      | nil =>
        rw [hfirst] at hqueue
        cases hqueue
      | cons i early =>
        rw [hfirst] at hqueue
        cases hqueue
        have hearly := fun hm => hearly (List.mem_cons_of_mem _ hm)
        refine .asked _ early late rfl rfl hflag rfl hearly hlate ?_
        simpa [hheld, Worker.held] using hasked

/-- The worker goes on with its hand free, after it has applied what it held, if anything. -/
theorem Orderly.goesOn (h : Orderly u₀ c) {w w' : Worker} (hworker : c.updater.worker = some w)
    (hrun : w.isEnded = false) (hheld' : w'.held = []) (hrun' : w'.isEnded = false)
    (deliveries : List Delivery) (journal : Journal) :
    Orderly u₀ { c with
      updater := { c.updater with
        state := w.held.foldl (OutlineState.refresh c.updater.rule c.updater.settings)
          c.updater.state
        worker := some w', deliveries, journal }
      applied := c.applied ++ c.updater.held } := by
  have hheld : c.updater.held = w.held := Updater.held_of_worker hworker
  have horder := h.order
  refine ⟨h.rule, h.settings, ?_, ?_, ?_⟩
  · simpa [hheld, Updater.held, Updater.queued, hheld'] using horder
  · rw [hheld, List.foldl_append, ← h.state, h.rule, h.settings]
  · obtain ⟨hflag, hqueue, hstopping, hasked⟩ |
      ⟨early, late, hflag, hqueue, hearly, hlate, hasked⟩ := h.phase.of_running hworker hrun
    · exact .running w' rfl hrun' hflag hqueue hstopping hasked
    · refine .asked w' early late rfl hrun' hflag hqueue hearly hlate ?_
      simpa [hheld, hheld'] using hasked

theorem Orderly.work (h : Orderly u₀ c) {u : Updater} (hwork : c.updater.work? = some u) :
    Orderly u₀ { c with updater := u, applied := c.applied ++ c.updater.held } := by
  obtain ⟨rest, hworker, hfirst, rfl⟩ | ⟨e, rest, hworker, hfirst, rfl⟩ |
    ⟨e, w, journal, hworker, hheld, hrun, rfl⟩ |
    ⟨w, w', deliveries, journal, hworker, hheld, hrun, hheld', hrun', rfl⟩ :=
      Updater.work?_cases hwork
  · exact h.takesMarker hworker hfirst
  · exact h.takesEvent hworker hfirst
  · exact h.goesOn hworker rfl hheld hrun c.updater.deliveries journal
  · have hsame := h.goesOn hworker hrun hheld' hrun' deliveries journal
    rw [hheld] at hsame
    exact hsame

/-- One move preserves the invariant. -/
theorem orderly_step (h : Orderly u₀ c) {m : Move} (hallowed : InlineAlone c m)
    (hstep : c.step? m = some c') : Orderly u₀ c' := by
  cases m with
  | post e => cases hstep; exact h.post e
  | subscribe listener =>
    cases hstep
    exact h.of_listeners (c.updater.listeners ++ [listener]) c.updater.released
  | release =>
    cases hstep
    exact h.of_listeners c.updater.listeners true
  | process =>
    obtain rfl := process_eq_some hstep
    exact h.process (hallowed rfl)
  | start =>
    obtain rfl := start_eq_some hstep
    exact h.start
  | stop timeout =>
    obtain rfl | ⟨w, hworker, rfl⟩ := stop_eq_some hstep
    · exact h
    · exact h.stop hworker timeout
  | stopReturns =>
    obtain ⟨timeout, hstopping, -, rfl⟩ := stopReturns_eq_some hstep
    exact (h.stopReturns hstopping).1
  | work =>
    obtain ⟨u, hwork, rfl⟩ := Option.map_eq_some_iff.mp hstep
    exact h.work hwork

/-! ## Whole courses -/

/-- The course of a new updater. -/
def fresh (rule : NameRule) (settings : Settings) (state : OutlineState)
    (listeners : List Listener) : Course :=
  { updater := { rule, settings, state, listeners } }

theorem orderly_fresh (rule : NameRule) (settings : Settings) (state : OutlineState)
    (listeners : List Listener) :
    Orderly { rule, settings, state, listeners } (fresh rule settings state listeners) :=
  ⟨rfl, rfl, rfl, rfl, .alone rfl rfl List.not_mem_nil rfl⟩

theorem Reaches.orderly (hc : Reaches InlineAlone c c') (h : Orderly u₀ c) : Orderly u₀ c' := by
  induction hc with
  | refl => exact h
  | step _ hallowed hstep ih => exact orderly_step ih hallowed hstep

/-- However calls, posts and the worker come in between each other: the events applied, the one
held and those queued are those posted, in their order, and the state is the fold of those applied.
Once a stop returns and the worker has ended, just what had been posted when it was first asked to
stop has been applied, and the rest is queued. If nothing is held or queued, the state is the fold
of all that was posted, by whatever way it was applied. -/
theorem course_in_order (rule : NameRule) (settings : Settings) (state : OutlineState)
    (listeners : List Listener) (c : Course)
    (hc : Reaches InlineAlone (fresh rule settings state listeners) c) :
    c.applied ++ c.updater.held ++ c.updater.queued = c.posted ∧
      c.updater.state = c.applied.foldl (OutlineState.refresh rule settings) state ∧
      (∀ c', c.step? .stopReturns = some c' → c'.updater.worker = none →
        c'.asked = some c'.applied ∧ c'.posted = c'.applied ++ c'.updater.queued ∧
          .stop ∉ c'.updater.queue) ∧
      (c.updater.held = [] → c.updater.queued = [] →
        c.updater.state = c.posted.foldl (OutlineState.refresh rule settings) state) := by
  have h := hc.orderly (orderly_fresh rule settings state listeners)
  refine ⟨h.order, h.state, fun c' hstep hnone => ?_, fun hheld hqueued => ?_⟩
  · obtain ⟨timeout, hstopping, -, rfl⟩ := stopReturns_eq_some hstep
    obtain ⟨hnext, hended⟩ := h.stopReturns hstopping
    obtain ⟨hasked, hqueue⟩ := hended hnone
    have hheld : (c.updater.join timeout).held = [] := Updater.held_of_alone hnone
    have horder : c.applied ++ (c.updater.join timeout).held ++ (c.updater.join timeout).queued =
        c.posted := hnext.order
    rw [hheld, List.append_nil] at horder
    exact ⟨hasked, horder.symm, hqueue⟩
  · have horder := h.order
    rw [hheld, hqueued, List.append_nil, List.append_nil] at horder
    rw [h.state, horder]

/-- A worker is asked to stop while it holds an event, and the stop runs out of time; an event that
is posted then is still queued when a second stop has ended the worker. -/
theorem course_in_order_late_stop :
    let first : EditorEvent := .active none none
    let second : EditorEvent := .changed "a_spec.rb" "describe 1 do"
    ∃ c c', Reaches InlineAlone (fresh .standard .default .empty []) c ∧
      c.step? .stopReturns = some c' ∧ c'.updater.worker = none ∧ c'.asked = some [first] ∧
      c'.applied = [first] ∧ c'.updater.queued = [second] ∧ c'.posted = [first, second] := by
  intro first second
  have hother {c : Course} {m : Move} (hm : m ≠ .process) : InlineAlone c m := fun h => absurd h hm
  -- The stop is called before the worker has applied what it holds, and returns before that too.
  have hfresh : Reaches InlineAlone (fresh .standard .default .empty []) _ := .refl
  have htimed := (((((hfresh.step (m := .post first) (hother nofun) rfl).step
    (m := .start) (hother nofun) rfl).step (m := .work) (hother nofun) rfl).step
    (m := .stop (.int 0)) (hother nofun) rfl).step (m := .post second) (hother nofun) rfl).step
    (m := .stopReturns) (hother nofun) rfl
  -- Applying it, being done with the listeners, and taking the marker are one step each.
  have hended := (((htimed.step (m := .work) (hother nofun) rfl).step (m := .work) (hother nofun)
    rfl).step (m := .work) (hother nofun) rfl).step (m := .stop .null) (hother nofun) rfl
  obtain ⟨-, -, hreturn, -⟩ := course_in_order .standard .default .empty [] _ hended
  obtain ⟨hasked, hposted, -⟩ := hreturn _ rfl rfl
  exact ⟨_, _, hended, rfl, rfl, hasked, rfl, rfl, hposted⟩

end Course

end SpecSkeleton
