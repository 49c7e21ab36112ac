import SpecSkeleton.Proofs.Updater.Course
import SpecSkeleton.Updater.Settled

/-!
# The stop marker of a shared queue

The queue may be emptied on the caller's side while a worker is there, item by item and from any
thread, so that the two sides take from one queue in any order. What is taken there may be the stop
marker, which then never reaches the worker.

`MarkerLaw` is kept by every move (`markerLaw_move`): the marker that a stop request puts into the
queue is there, or has ended the worker, or has been taken on the caller's side. `marker_kept_iff`
says what follows for every course: the marker is in the queue until the worker takes it if, and
only if, no call of `process` has taken one; then the worker can still be ended, and else it never
ends again.
-/

namespace SpecSkeleton

/-! ## Emptying the queue item by item -/

namespace Updater

/-- The queue plays no part in what an event does. -/
theorem deliver_queue (u : Updater) (queue : List QueueItem) (s : OutlineState) (index : Nat) :
    ({ u with queue } : Updater).deliver s index = { u.deliver s index with queue } := by
  unfold deliver
  have hreaction : ({ u with queue } : Updater).reaction index s = u.reaction index s := rfl
  rw [hreaction]
  cases u.reaction index s <;> rfl

theorem foldl_deliver_queue (s : OutlineState) (indices : List Nat) (u : Updater)
    (queue : List QueueItem) :
    indices.foldl (·.deliver s ·) { u with queue } =
      { indices.foldl (·.deliver s ·) u with queue } := by
  induction indices generalizing u with
  | nil => rfl
  | cons i indices ih => rw [List.foldl_cons, List.foldl_cons, deliver_queue, ih]

theorem apply_queue (u : Updater) (queue : List QueueItem) (e : EditorEvent) :
    ({ u with queue } : Updater).apply e = { u.apply e with queue } := by
  have haccept : ({ u with queue } : Updater).accept? e =
      (u.accept? e).map fun next => { next with queue } := by
    rw [accept?, accept?, Option.map_map]
    rfl
  unfold apply
  rw [haccept]
  cases u.accept? e with
  | none => rfl
  | some next => exact foldl_deliver_queue next.state _ next queue

theorem drain_queue (items : List QueueItem) (u : Updater) (queue : List QueueItem) :
    ({ u with queue } : Updater).drain items = u.drain items := by
  induction items generalizing u with
  | nil => rfl
  | cons i items ih =>
    cases i with
    | stop => rfl
    | event e => rw [drain, drain, apply_queue, ih]

/-- The caller's side takes the first item of the queue: an event is applied, a marker dropped. -/
def take (u : Updater) : Updater :=
  match u.queue with
  | [] => u
  | .stop :: rest => { u with queue := rest }
  | .event e :: rest => ({ u with queue := rest } : Updater).apply e

theorem take_of_event {u : Updater} {e : EditorEvent} {rest : List QueueItem}
    (h : u.queue = .event e :: rest) :
    ∃ deliveries journal, u.take =
      { u with
        state := u.state.refresh u.rule u.settings e
        queue := rest
        deliveries, journal } := by
  unfold take
  rw [h]
  exact apply_eq { u with queue := rest } e

theorem process_of_nil {u : Updater} (h : u.queue = []) : u.process = u := by
  rw [process, h, drain, ← h]

theorem process_of_stop {u : Updater} {rest : List QueueItem} (h : u.queue = .stop :: rest) :
    u.process = u.take := by
  rw [process, take, h]
  rfl

theorem process_of_event {u : Updater} {e : EditorEvent} {rest : List QueueItem}
    (h : u.queue = .event e :: rest) : u.take.process = u.process := by
  have htake : u.take = { u.apply e with queue := rest } := by
    unfold take
    rw [h]
    exact apply_queue u rest e
  rw [process, process, h, htake, drain_queue, drain]

end Updater

namespace Course

/-- Takes the first item of the queue on the caller's side, as a call of `process` does over and
over until it finds the queue empty or a stop marker. -/
def take (c : Course) : Course :=
  { c with
    updater := c.updater.take
    applied := c.applied ++ QueueItem.events (c.updater.queue.take 1) }

/-- The courses that lead from one when the caller's side may take items at any time; the flag says
whether one of these was a stop marker. -/
inductive Shares (c₀ : Course) : Bool → Course → Prop where
  | refl : Shares c₀ false c₀
  | move {taken : Bool} {c c' : Course} {m : Move} : Shares c₀ taken c → m ≠ .process →
      c.step? m = some c' → Shares c₀ taken c'
  | take {taken : Bool} {c : Course} : Shares c₀ taken c →
      Shares c₀ (taken || c.updater.queue.head? == some .stop) c.take

theorem Shares.trans {c₀ c c' : Course} {taken taken' : Bool} (h : Shares c₀ taken c)
    (h' : Shares c taken' c') : Shares c₀ (taken || taken') c' := by
  induction h' with
  | refl => rwa [Bool.or_false]
  | move _ hm hstep ih => exact ih.move hm hstep
  | take _ ih =>
    rw [← Bool.or_assoc]
    exact ih.take

/-- A whole call of `process` takes one item after the other. -/
theorem shares_process (c : Course) :
    Shares c (decide (.stop ∈ c.updater.queue)) { c with
      updater := c.updater.process
      applied := c.applied ++ QueueItem.drained c.updater.queue } := by
  generalize hqueue : c.updater.queue = items
  induction items generalizing c with
  | nil =>
    rw [Updater.process_of_nil hqueue, QueueItem.drained, List.append_nil]
    exact .refl
  | cons i items ih =>
    have htake := (Shares.refl : Shares c false c).take
    rw [hqueue] at htake
    cases i with
    | stop =>
      rw [Updater.process_of_stop hqueue]
      simpa [take, hqueue, QueueItem.drained] using htake
    | event e =>
      obtain ⟨deliveries, journal, hupdater⟩ := Updater.take_of_event hqueue
      have hrest : c.take.updater.queue = items := by rw [take, hupdater]
      have hall := htake.trans (ih c.take hrest)
      rw [take, Updater.process_of_event hqueue] at hall
      have hevent : (some (QueueItem.event e) == some .stop) = false := rfl
      simpa [hqueue, QueueItem.drained, hevent] using hall

end Course

/-! ## Where the marker is -/

namespace Updater

def hasEnded (u : Updater) : Bool :=
  u.worker.any Worker.isEnded

/-- The marker of a stop request is in the queue, or has ended the worker, or has been taken on the
caller's side; without a request there is none. -/
structure MarkerLaw (taken : Bool) (u : Updater) : Prop where
  count : u.queue.count .stop + u.hasEnded.toNat + taken.toNat = u.stopRequested.toNat
  alone : u.worker = none → u.stopRequested = false

variable {taken : Bool} {u v : Updater}

theorem MarkerLaw.not_mem_of_taken (h : MarkerLaw true u) :
    .stop ∉ u.queue ∧ ∃ w, u.worker = some w ∧ w.isEnded = false := by
  have hcount := h.count
  have hflag := u.stopRequested.toNat_le
  rw [Bool.toNat_true] at hcount
  refine ⟨List.count_eq_zero.mp (by omega), ?_⟩
  cases hworker : u.worker with
  | none =>
    rw [h.alone hworker] at hcount
    simp at hcount
  | some w =>
    refine ⟨w, rfl, ?_⟩
    have hended : u.hasEnded.toNat = 0 := by omega
    simpa [hasEnded, hworker] using hended

/-- While a worker that was asked to stop goes on, its marker is in the queue unless the caller's
side has taken it. -/
theorem MarkerLaw.count_eq_one_iff (h : MarkerLaw taken u) {w : Worker} (hworker : u.worker = some w)
    (hw : w.isEnded = false) (hflag : u.stopRequested = true) :
    u.queue.count .stop = 1 ↔ taken = false := by
  have hcount := h.count
  have hended : u.hasEnded = false := by simp [hasEnded, hworker, hw]
  rw [hended, hflag] at hcount
  cases taken <;> simp at hcount ⊢ <;> omega

theorem MarkerLaw.work (h : MarkerLaw taken u) (hwork : u.work? = some v) : MarkerLaw taken v := by
  have hcount := h.count
  obtain ⟨rest, hworker, hqueue, rfl⟩ | ⟨e, rest, hworker, hqueue, rfl⟩ |
    ⟨e, w, journal, hworker, -, hw, rfl⟩ |
    ⟨w, w', deliveries, journal, hworker, -, hw, -, hw', rfl⟩ := work?_cases hwork
  · refine ⟨?_, by simp⟩
    simpa [hasEnded, hworker, hqueue, Worker.isEnded] using hcount
  · refine ⟨?_, by simp⟩
    simpa [hasEnded, hworker, hqueue, Worker.isEnded] using hcount
  · refine ⟨?_, by simp⟩
    have hold : (Worker.holding e).isEnded = false := rfl
    simpa [hasEnded, hworker, hw, hold] using hcount
  · refine ⟨?_, by simp⟩
    simpa [hasEnded, hworker, hw, hw'] using hcount

theorem MarkerLaw.start (h : MarkerLaw taken u) : MarkerLaw taken u.start := by
  cases hworker : u.worker with
  | some w =>
    rw [start_again hworker]
    exact h
  | none =>
    have hcount := h.count
    rw [start_alone hworker]
    refine ⟨?_, nofun⟩
    simpa [hasEnded, hworker, Worker.isEnded] using hcount

theorem MarkerLaw.requestStop (h : MarkerLaw taken u) {w : Worker} (hworker : u.worker = some w) :
    MarkerLaw taken u.requestStop := by
  cases hflag : u.stopRequested with
  | true =>
    rw [requestStop_again hflag]
    exact h
  | false =>
    have hcount : u.queue.count .stop + u.hasEnded.toNat + taken.toNat = 0 := by
      rw [h.count, hflag, Bool.toNat_false]
    rw [requestStop_first hworker hflag]
    refine ⟨?_, fun hnone => absurd (hworker.symm.trans hnone) (Option.some_ne_none w)⟩
    have hended : u.hasEnded.toNat = 0 := by omega
    change (u.queue ++ [QueueItem.stop]).count .stop + u.hasEnded.toNat + taken.toNat = 1
    rw [List.count_append, List.count_singleton_self]
    omega

theorem MarkerLaw.join (h : MarkerLaw taken u) (timeout : Value) :
    MarkerLaw taken (u.join timeout) := by
  cases hworker : u.worker with
  | none =>
    rw [Updater.join, hworker]
    exact h
  | some w =>
    cases hw : w.isEnded with
    | false =>
      obtain ⟨journal, hjoin⟩ := join_running hworker hw timeout
      rw [hjoin]
      exact ⟨h.count, h.alone⟩
    | true =>
      cases w with
      | ended =>
        have hcount := h.count
        have hflag := u.stopRequested.toNat_le
        rw [hasEnded, hworker] at hcount
        simp only [Option.any_some, hw, Bool.toNat_true] at hcount
        rw [join_ended hworker]
        refine ⟨?_, fun _ => rfl⟩
        simp only [hasEnded, Option.any_none, Bool.toNat_false]
        omega
      | _ => cases hw

theorem MarkerLaw.take (h : MarkerLaw taken u) :
    MarkerLaw (taken || u.queue.head? == some .stop) u.take := by
  have hcount := h.count
  cases hqueue : u.queue with
  | nil =>
    rw [Updater.take, hqueue]
    simpa using h
  | cons i rest =>
    cases i with
    | stop =>
      have hmarker : (taken || some QueueItem.stop == some .stop) = true := by simp
      have hflag := u.stopRequested.toNat_le
      rw [hqueue, List.count_cons_self] at hcount
      rw [Updater.take, hqueue, List.head?_cons, hmarker]
      refine ⟨?_, h.alone⟩
      change rest.count .stop + u.hasEnded.toNat + 1 = u.stopRequested.toNat
      omega
    | event e =>
      obtain ⟨deliveries, journal, htake⟩ := take_of_event hqueue
      have hevent : (taken || some (QueueItem.event e) == some .stop) = taken := by
        rw [show (some (QueueItem.event e) == some .stop) = false from rfl, Bool.or_false]
      rw [hqueue] at hcount
      rw [htake, List.head?_cons, hevent]
      refine ⟨?_, h.alone⟩
      simpa [hasEnded] using hcount

theorem MarkerLaw.post (h : MarkerLaw taken u) (e : EditorEvent) : MarkerLaw taken (u.post e) := by
  refine ⟨?_, h.alone⟩
  rw [Updater.post, List.count_append]
  exact h.count

/-- A worker that goes on has something to do as long as its marker is queued, if no listener holds
it up. -/
theorem work?_of_marker {w : Worker} (hworker : u.worker = some w) (hw : w.isEnded = false)
    (hmarker : .stop ∈ u.queue) (hreleased : u.released = true) : ∃ v, u.work? = some v := by
  unfold work?
  rw [hworker]
  cases w with
  | idle =>
    cases hqueue : u.queue with
    | nil => simp [hqueue] at hmarker
    | cons i rest => cases i <;> exact ⟨_, rfl⟩
  | holding e => dsimp only; split <;> exact ⟨_, rfl⟩
  | telling s index => dsimp only; split <;> exact ⟨_, rfl⟩
  | waiting s index => exact ⟨_, if_pos hreleased⟩
  | ended => cases hw

end Updater

namespace Course

open Updater (MarkerLaw)

variable {c₀ c c' : Course} {taken taken' : Bool}

theorem markerLaw_move (h : MarkerLaw taken c.updater) {m : Move} (hm : m ≠ .process)
    (hstep : c.step? m = some c') : MarkerLaw taken c'.updater := by
  cases m with
  | post e => cases hstep; exact h.post e
  | subscribe listener => cases hstep; exact ⟨h.count, h.alone⟩
  | release => cases hstep; exact ⟨h.count, h.alone⟩
  | process => exact absurd rfl hm
  | start =>
    obtain rfl := start_eq_some hstep
    exact h.start
  | stop timeout =>
    obtain rfl | ⟨w, hworker, rfl⟩ := stop_eq_some hstep
    · exact h
    · exact h.requestStop hworker
  | stopReturns =>
    obtain ⟨timeout, -, -, rfl⟩ := stopReturns_eq_some hstep
    exact h.join timeout
  | work =>
    obtain ⟨u, hwork, rfl⟩ := Option.map_eq_some_iff.mp hstep
    exact h.work hwork

theorem Shares.markerLaw (hc : Shares c₀ taken' c) (h : MarkerLaw taken c₀.updater) :
    MarkerLaw (taken || taken') c.updater := by
  induction hc with
  | refl => rwa [Bool.or_false]
  | move _ hm hstep ih => exact markerLaw_move ih hm hstep
  | take _ ih =>
    rw [← Bool.or_assoc]
    exact ih.take

theorem markerLaw_fresh (rule : NameRule) (settings : Settings) (state : OutlineState)
    (listeners : List Listener) : MarkerLaw false (fresh rule settings state listeners).updater :=
  ⟨rfl, fun _ => rfl⟩

/-! ## Ending a worker -/

/-- A worker whose marker is queued comes to it, once its listeners have been let go. -/
theorem exists_ended {w : Worker} (hworker : c.updater.worker = some w) (hw : w.isEnded = false)
    (hmarker : .stop ∈ c.updater.queue) (hreleased : c.updater.released = true) :
    ∃ c', Shares c false c' ∧ c'.updater.worker = some .ended := by
  induction hload : c.updater.load using Nat.strongRecOn generalizing c w with
  | _ load ih =>
    obtain ⟨u, hwork⟩ := Updater.work?_of_marker hworker hw hmarker hreleased
    have hstep : Shares c false { c with updater := u, applied := c.applied ++ c.updater.held } :=
      Shares.refl.move (m := .work) nofun (by rw [step?, hwork]; rfl)
    have hless : u.load < load := hload ▸ Updater.load_work? hwork
    have hrest {w' : Worker} (hworker' : u.worker = some w') (hw' : w'.isEnded = false)
        (hmarker' : .stop ∈ u.queue) (hreleased' : u.released = true) :
        ∃ c', Shares c false c' ∧ c'.updater.worker = some .ended := by
      obtain ⟨c', hc', hended⟩ :=
        ih u.load hless (c := { c with updater := u, applied := c.applied ++ c.updater.held })
          hworker' hw' hmarker' hreleased' rfl
      exact ⟨c', hstep.trans hc', hended⟩
    obtain ⟨rest, -, hqueue, rfl⟩ | ⟨e, rest, -, hqueue, rfl⟩ | ⟨e, w', journal, -, -, hw', rfl⟩ |
      ⟨w', w'', deliveries, journal, -, -, -, -, hw', rfl⟩ := Updater.work?_cases hwork
    · exact ⟨_, hstep, rfl⟩
    · refine hrest rfl rfl ?_ hreleased
      rw [hqueue] at hmarker
      simpa using hmarker
    · exact hrest rfl hw' hmarker hreleased
    · exact hrest rfl hw' hmarker hreleased

/-- A stop that is called, or called already, gives up a worker that has ended. -/
theorem exists_given_up (hworker : c.updater.worker = some .ended) :
    ∃ c', Shares c false c' ∧ c'.updater.worker = none := by
  have hreturn {c : Course} {timeout : Value} (hworker : c.updater.worker = some .ended)
      (hstopping : c.stopping = some timeout) :
      c.step? .stopReturns = some { c with
        updater := { c.updater with worker := none, stopRequested := false }, stopping := none } := by
    have hmay : mayReturn c.updater timeout = true := by
      cases timeout <;> simp [mayReturn, hworker, Worker.isEnded]
    simp [step?, hstopping, hmay, Updater.join_ended hworker]
  cases hstopping : c.stopping with
  | some timeout =>
    exact ⟨_, Shares.refl.move (m := .stopReturns) (by simp) (hreturn hworker hstopping), rfl⟩
  | none =>
    have hcall : c.step? (.stop .null) = some { c with
        updater := c.updater.requestStop
        stopping := some .null
        asked := some (c.asked.getD c.posted) } := by
      simp [step?, hstopping, hworker]
    have hsame : c.updater.requestStop.worker = some .ended := by
      cases hflag : c.updater.stopRequested with
      | false => rw [Updater.requestStop_first hworker hflag]; exact hworker
      | true => rw [Updater.requestStop_again hflag]; exact hworker
    have hcalled := Shares.refl.move (m := .stop .null) (by simp) hcall
    exact ⟨_, hcalled.move (m := .stopReturns) (by simp) (hreturn hsame rfl), rfl⟩

theorem exists_stopped {w : Worker} (hworker : c.updater.worker = some w) (hw : w.isEnded = false)
    (hmarker : .stop ∈ c.updater.queue) : ∃ c', Shares c false c' ∧ c'.updater.worker = none := by
  have hrelease : Shares c false { c with updater := c.updater.release } :=
    Shares.refl.move (m := .release) nofun rfl
  obtain ⟨c₁, hc₁, hended⟩ :=
    exists_ended (c := { c with updater := c.updater.release }) hworker hw hmarker rfl
  obtain ⟨c₂, hc₂, hnone⟩ := exists_given_up hended
  exact ⟨c₂, (hrelease.trans hc₁).trans hc₂, hnone⟩

/-! ## Whole courses -/

/-- However the two sides share the queue: a call of `process` applies the events before the stop
marker, in their order, takes the marker and leaves the events behind it. While a worker that was
asked to stop goes on, its marker is queued just if no call has taken one; then the worker can still
be stopped, and else it goes on whatever happens. -/
theorem marker_kept_iff (rule : NameRule) (settings : Settings) (state : OutlineState)
    (listeners : List Listener) (taken : Bool) (c : Course)
    (hc : Shares (fresh rule settings state listeners) taken c) :
    (∃ c', Shares c (decide (.stop ∈ c.updater.queue)) c' ∧ c'.updater = c.updater.process ∧
      c'.applied = c.applied ++ QueueItem.drained c.updater.queue ∧
      QueueItem.drained c.updater.queue ++ c'.updater.queued = c.updater.queued ∧
      .stop ∉ c'.updater.queue ∧
      (.stop ∉ c.updater.queue → c'.updater.queued = [])) ∧
    ∀ w, c.updater.worker = some w → w.isEnded = false → c.updater.stopRequested = true →
      (c.updater.queue.count .stop = 1 ↔ taken = false) ∧
      (taken = false → ∃ c', Shares c false c' ∧ c'.updater.worker = none) ∧
      (taken = true → ∀ taken' c', Shares c taken' c' →
        ∃ w', c'.updater.worker = some w' ∧ w'.isEnded = false) := by
  have h := hc.markerLaw (markerLaw_fresh rule settings state listeners)
  rw [Bool.false_or] at h
  obtain ⟨deliveries, journal, hprocess⟩ := Updater.drain_eq c.updater.queue c.updater
  have hqueue : c.updater.process.queue = QueueItem.undrained c.updater.queue := by
    rw [Updater.process, hprocess]
  refine ⟨⟨_, shares_process c, rfl, rfl, ?_, ?_, ?_⟩, fun w hworker hw hflag => ⟨?_, ?_, ?_⟩⟩
  · rw [Updater.queued, Updater.queued, hqueue, ← QueueItem.events_eq_drained_append]
  · have hone : c.updater.queue.count .stop ≤ 1 := by
      have hcount := h.count
      have hflag := c.updater.stopRequested.toNat_le
      omega
    rw [hqueue, ← List.count_eq_zero, QueueItem.count_undrained]
    omega
  · intro hnone
    rw [Updater.queued, hqueue, (QueueItem.drained_of_not_mem hnone).2]
    rfl
  · exact h.count_eq_one_iff hworker hw hflag
  · intro htaken
    have hcount := (h.count_eq_one_iff hworker hw hflag).mpr htaken
    exact exists_stopped hworker hw (List.count_pos_iff.mp (by omega))
  · intro htaken taken' c' hc'
    have h' := hc'.markerLaw h
    rw [htaken, Bool.true_or] at h'
    exact h'.not_mem_of_taken.2

/-- A stop has run out of time, and the marker of the worker is still queued. -/
theorem marker_kept_iff_timed_out :
    let first : EditorEvent := .active none none
    ∃ c, Shares (fresh .standard .default .empty []) false c ∧
      c.updater.worker = some (.holding first) ∧ c.updater.queue.count .stop = 1 ∧
      ∃ c', Shares c false c' ∧ c'.updater.worker = none := by
  intro first
  have hc : Shares (fresh .standard .default .empty []) false _ :=
    ((((Shares.refl.move (m := .post first) nofun rfl).move (m := .start) nofun rfl).move
      (m := .work) nofun rfl).move (m := .stop (.int 0)) nofun rfl).move
        (m := .stopReturns) nofun rfl
  obtain ⟨-, hkept⟩ := marker_kept_iff .standard .default .empty [] false _ hc
  obtain ⟨hcount, hstops, -⟩ := hkept (.holding first) rfl rfl rfl
  exact ⟨_, hc, rfl, hcount.mpr rfl, hstops rfl⟩

/-- A call of `process` after that applies nothing of what is queued and takes the marker. -/
theorem process_takes_marker :
    let first : EditorEvent := .active none none
    let second : EditorEvent := .changed "a_spec.rb" "describe 1 do"
    ∃ c c', Shares (fresh .standard .default .empty []) false c ∧ c.step? .process = some c' ∧
      c.updater.queued = [second] ∧ c'.applied = c.applied ∧ c'.updater.queued = [second] ∧
      c.updater.queue.count .stop = 1 ∧ c'.updater.queue.count .stop = 0 ∧
      c'.updater.stopRequested = true ∧ c'.updater.worker = some (.holding first) ∧
      ∀ taken c'', Shares c' taken c'' → c''.updater.worker ≠ none ∧
        c''.updater.worker ≠ some .ended := by
  intro first second
  have hc : Shares (fresh .standard .default .empty []) false _ :=
    (((((Shares.refl.move (m := .post first) nofun rfl).move (m := .start) nofun rfl).move
      (m := .work) nofun rfl).move (m := .stop (.int 0)) nofun rfl).move
        (m := .stopReturns) nofun rfl).move (m := .post second) nofun rfl
  have hlaw := (hc.trans (shares_process _)).markerLaw (markerLaw_fresh .standard .default .empty [])
  refine ⟨_, _, hc, rfl, rfl, rfl, rfl, rfl, rfl, rfl, rfl, fun taken c'' hc'' => ?_⟩
  obtain ⟨-, w, hworker, hw⟩ := (hc''.markerLaw hlaw).not_mem_of_taken
  rw [hworker]
  exact ⟨nofun, fun hended => by cases hended; cases hw⟩

end Course

end SpecSkeleton
