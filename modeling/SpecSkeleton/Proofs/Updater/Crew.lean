import Mathlib.Logic.Relation
import SpecSkeleton.Proofs.Updater.Marker

/-!
# The workers of an updater

An updater, its controlling thread and every worker that was ever started for it. A call of `stop`
takes several steps: it puts the marker into the queue, notes that it has, waits, and then gives the
worker up and takes its note back; others go on in between. A worker that was given up is not
forgotten here, and goes on if it can.

`Quiet` and `Stage` say where the marker can be, and `stage_next` that every step keeps to that.
`one_worker_one_marker` is about all states that can be reached. The calls of an updater that run
without a break are runs of these steps (`undisturbed_process`, `Stage.reaches_stop`).
-/

namespace SpecSkeleton

/-- What the controlling thread is doing. -/
inductive Control where
  | free
  /-- The marker is in the queue, and that is not yet noted. -/
  | marked (timeout : Value)
  | joining (timeout : Value)
  /-- The worker is given up, and the note of the marker still there. -/
  | clearing

structure Crew where
  updater : Updater
  control : Control := .free
  /-- The workers that were given up. -/
  former : List Worker := []
  /-- A stop was called since the last worker was started. -/
  asked : Bool := false

/-- What a stop that runs out of time tells the log. -/
def lateStop (timeout : Value) : LogRecord :=
  outlineRecord .warning s!"Outline updater did not stop within {timeout.shown} seconds"

namespace Updater

/-- Taking the first item moves the state on, which is recorded, and that is all. -/
theorem take_eq (u : Updater) : ∃ state deliveries journal,
    u.take = { u with state, queue := u.queue.tail, deliveries, journal } := by
  cases hqueue : u.queue with
  | nil =>
    have htake : u.take = u := by unfold take; rw [hqueue]
    exact ⟨u.state, u.deliveries, u.journal, by rw [htake, List.tail_nil, ← hqueue]⟩
  | cons i rest =>
    cases i with
    | stop =>
      refine ⟨u.state, u.deliveries, u.journal, ?_⟩
      rw [take, hqueue]
      rfl
    | event e =>
      obtain ⟨deliveries, journal, htake⟩ := take_of_event hqueue
      exact ⟨_, deliveries, journal, htake⟩

theorem work?_of_ended {u : Updater} (h : u.worker = some .ended) : u.work? = none := by
  rw [work?, h]

/-- A worker that goes on leaves the log of a stop that waited for it too long. -/
theorem join_late {u : Updater} {w : Worker} (h : u.worker = some w) (hw : w.isEnded = false)
    (timeout : Value) : u.join timeout = u.log [lateStop timeout] := by
  unfold join
  rw [h]
  cases w with
  | ended => cases hw
  | _ => rfl

end Updater

namespace Crew

/-- A call of `start`. -/
def start (c : Crew) : Crew :=
  { c with updater := c.updater.start, asked := c.updater.worker.isSome && c.asked }

/-- What can happen next, other than a call of `stop`. -/
inductive Step (c : Crew) : Crew → Prop where
  | post (e : EditorEvent) : Step c { c with updater := c.updater.post e }
  | subscribe (listener : Listener) : Step c { c with updater := c.updater.subscribe listener }
  | release : Step c { c with updater := c.updater.release }
  /-- Someone who empties the queue takes its first item. -/
  | take : Step c { c with updater := c.updater.take }
  | start (hcontrol : c.control = .free) : Step c c.start
  | note {timeout : Value} (hcontrol : c.control = .marked timeout) :
      Step c { c with
        updater := { c.updater with stopRequested := true }
        control := .joining timeout }
  /-- The time is over. This may be so as well when the worker has just ended. -/
  | timesOut {timeout : Value} (hcontrol : c.control = .joining timeout) (htime : timeout ≠ .null) :
      Step c { c with updater := c.updater.log [lateStop timeout], control := .free }
  | givesUp {timeout : Value} (hcontrol : c.control = .joining timeout)
      (hworker : c.updater.worker = some .ended) :
      Step c { c with
        updater := { c.updater with worker := none }
        control := .clearing
        former := .ended :: c.former }
  | clears (hcontrol : c.control = .clearing) :
      Step c { c with updater := { c.updater with stopRequested := false }, control := .free }
  | work {u : Updater} (hwork : c.updater.work? = some u) : Step c { c with updater := u }
  /-- A worker that was given up goes on, on the same queue and the same state. -/
  | formerWork {index : Nat} {w : Worker} {u : Updater} (hformer : c.former[index]? = some w)
      (hwork : ({ c.updater with worker := some w } : Updater).work? = some u) :
      Step c { c with
        updater := { u with worker := c.updater.worker }
        former := c.former.set index (u.worker.getD w) }

/-- A call of `stop`. -/
inductive Asks (c : Crew) (timeout : Value) : Crew → Prop where
  | nobody (hcontrol : c.control = .free) (hworker : c.updater.worker = none) : Asks c timeout c
  | first {w : Worker} (hcontrol : c.control = .free) (hworker : c.updater.worker = some w)
      (hflag : c.updater.stopRequested = false) :
      Asks c timeout { c with
        updater := { c.updater with queue := c.updater.queue ++ [.stop] }
        control := .marked timeout
        asked := true }
  | again {w : Worker} (hcontrol : c.control = .free) (hworker : c.updater.worker = some w)
      (hflag : c.updater.stopRequested = true) :
      Asks c timeout { c with control := .joining timeout, asked := true }

def Next (c c' : Crew) : Prop :=
  Step c c' ∨ ∃ timeout, Asks c timeout c'

/-- The crews that one can lead to. -/
def Reaches : Crew → Crew → Prop :=
  Relation.ReflTransGen Next

/-- The crews that one can lead to while no stop is called. -/
def Undisturbed : Crew → Crew → Prop :=
  Relation.ReflTransGen Step

/-- All workers that were ever started. -/
def workers (c : Crew) : List Worker :=
  c.updater.worker.toList ++ c.former

/-- A stop was called for the worker, which is not given up yet. -/
def stopPending (c : Crew) : Bool :=
  c.updater.worker.isSome && c.asked

variable {c c' : Crew}

theorem Undisturbed.reaches (h : Undisturbed c c') : Reaches c c' :=
  Relation.ReflTransGen.mono (fun _ _ => Or.inl) _ _ h

/-! ## Where the marker is -/

/-- No stop is going on, and none is left of an earlier one. -/
structure Quiet (c : Crew) : Prop where
  control : c.control = .free
  flag : c.updater.stopRequested = false
  running : c.updater.hasEnded = false
  queue : .stop ∉ c.updater.queue

/-- The worker was asked to stop. The marker is in the queue, has ended the worker, or is lost. -/
structure Pending (c : Crew) : Prop where
  worker : c.updater.worker.isSome = true
  asked : c.asked = true
  noted : c.updater.stopRequested = true ∨ ∃ timeout, c.control = .marked timeout
  control : c.control ≠ .clearing
  count : c.updater.queue.count .stop + c.updater.hasEnded.toNat ≤ 1

/-- How far a crew is with stopping its worker. -/
inductive Stage (c : Crew) : Prop where
  | quiet (h : Quiet c)
  | pending (h : Pending c)
  | clearing (hcontrol : c.control = .clearing) (hworker : c.updater.worker = none)
      (hqueue : .stop ∉ c.updater.queue)

/-- No worker that was given up goes on. -/
def FormerEnded (c : Crew) : Prop :=
  ∀ w ∈ c.former, w = .ended

theorem FormerEnded.work? (h : FormerEnded c) {index : Nat} {w : Worker}
    (hformer : c.former[index]? = some w) :
    ({ c.updater with worker := some w } : Updater).work? = none := by
  rw [h w (List.mem_of_getElem? hformer)]
  exact Updater.work?_of_ended rfl

theorem FormerEnded.step (h : FormerEnded c) (hstep : Step c c') : FormerEnded c' := by
  cases hstep with
  | givesUp _ _ => exact List.forall_mem_cons.mpr ⟨rfl, h⟩
  | formerWork hformer hwork => rw [h.work? hformer] at hwork; cases hwork
  | _ => exact h

/-- Unless a stop is called, no marker comes into the queue, and no worker is ended or given up. -/
theorem Quiet.step (h : Quiet c) (hformer : FormerEnded c) (hstep : Step c c') :
    Quiet c' ∧ (c.updater.worker.isSome → c'.updater.worker.isSome) := by
  obtain ⟨hfree, hflag, hrunning, hqueue⟩ := h
  cases hstep with
  | post e => exact ⟨⟨hfree, hflag, hrunning, Course.not_mem_append_event hqueue e⟩, id⟩
  | subscribe listener => exact ⟨⟨hfree, hflag, hrunning, hqueue⟩, id⟩
  | release => exact ⟨⟨hfree, hflag, hrunning, hqueue⟩, id⟩
  | take =>
    obtain ⟨state, deliveries, journal, htake⟩ := Updater.take_eq c.updater
    rw [htake]
    exact ⟨⟨hfree, hflag, hrunning, fun hm => hqueue (List.mem_of_mem_tail hm)⟩, id⟩
  | start _ =>
    unfold Crew.start
    cases hworker : c.updater.worker with
    | none =>
      rw [Updater.start_alone hworker]
      exact ⟨⟨hfree, hflag, rfl, hqueue⟩, fun _ => rfl⟩
    | some w =>
      rw [Updater.start_again hworker]
      exact ⟨⟨hfree, hflag, hrunning, hqueue⟩, fun _ => Option.isSome_of_eq_some hworker⟩
  | note hcontrol => rw [hfree] at hcontrol; cases hcontrol
  | timesOut hcontrol _ => rw [hfree] at hcontrol; cases hcontrol
  | givesUp hcontrol _ => rw [hfree] at hcontrol; cases hcontrol
  | clears hcontrol => rw [hfree] at hcontrol; cases hcontrol
  | work hwork =>
    obtain ⟨rest, -, hfirst, rfl⟩ | ⟨e, rest, -, hfirst, rfl⟩ | ⟨e, w, journal, -, -, hw, rfl⟩ |
      ⟨w, w', deliveries, journal, -, -, -, -, hw', rfl⟩ := Updater.work?_cases hwork
    · rw [hfirst] at hqueue
      exact absurd (List.mem_cons_self ..) hqueue
    · rw [hfirst] at hqueue
      exact ⟨⟨hfree, hflag, rfl, fun hm => hqueue (List.mem_cons_of_mem _ hm)⟩, fun _ => rfl⟩
    · exact ⟨⟨hfree, hflag, hw, hqueue⟩, fun _ => rfl⟩
    · exact ⟨⟨hfree, hflag, hw', hqueue⟩, fun _ => rfl⟩
  | formerWork hindex hwork => rw [hformer.work? hindex] at hwork; cases hwork

/-! ## What every step keeps -/

/-- While a stop is pending its marker is used at most once. -/
theorem Pending.step (h : Pending c) (hformer : FormerEnded c) (hstep : Step c c') : Stage c' := by
  obtain ⟨hsome, hasked, hnoted, hcontrol, hcount⟩ := h
  cases hstep with
  | post e =>
    refine .pending ⟨hsome, hasked, hnoted, hcontrol, ?_⟩
    rw [Updater.post, List.count_append]
    exact hcount
  | subscribe listener => exact .pending ⟨hsome, hasked, hnoted, hcontrol, hcount⟩
  | release => exact .pending ⟨hsome, hasked, hnoted, hcontrol, hcount⟩
  | take =>
    obtain ⟨state, deliveries, journal, htake⟩ := Updater.take_eq c.updater
    have htail := (List.tail_sublist c.updater.queue).count_le .stop
    rw [htake]
    refine .pending ⟨hsome, hasked, hnoted, hcontrol, ?_⟩
    exact Nat.le_trans (Nat.add_le_add_right htail _) hcount
  | start _ =>
    obtain ⟨w, hworker⟩ := Option.isSome_iff_exists.mp hsome
    unfold Crew.start
    rw [Updater.start_again hworker]
    exact .pending ⟨hsome, by rw [hsome, hasked]; rfl, hnoted, hcontrol, hcount⟩
  | note _ => exact .pending ⟨hsome, hasked, .inl rfl, by simp, hcount⟩
  | timesOut hjoining _ =>
    obtain hflag | ⟨timeout, hmarked⟩ := hnoted
    · exact .pending ⟨hsome, hasked, .inl hflag, by simp, hcount⟩
    · rw [hjoining] at hmarked
      cases hmarked
  | givesUp _ hworker =>
    have hended : c.updater.hasEnded = true := by rw [Updater.hasEnded, hworker]; rfl
    rw [hended] at hcount
    have hnone : c.updater.queue.count .stop = 0 := by
      rw [Bool.toNat_true] at hcount
      omega
    exact .clearing rfl rfl (List.count_eq_zero.mp hnone)
  | clears hclearing => exact absurd hclearing hcontrol
  | work hwork =>
    obtain ⟨rest, hidle, hfirst, rfl⟩ | ⟨e, rest, hidle, hfirst, rfl⟩ |
      ⟨e, w, journal, hholding, -, hw, rfl⟩ |
      ⟨w, w', deliveries, journal, hgoing, -, hw, -, hw', rfl⟩ := Updater.work?_cases hwork
    · -- The marker is no longer in the queue: it has ended the worker.
      refine .pending ⟨rfl, hasked, hnoted, hcontrol, ?_⟩
      rw [hfirst, List.count_cons_self] at hcount
      exact Nat.le_trans (Nat.le_add_right _ _) hcount
    · refine .pending ⟨rfl, hasked, hnoted, hcontrol, ?_⟩
      rw [hfirst, Updater.hasEnded, hidle] at hcount
      exact hcount
    · have hold : (Worker.holding e).isEnded = false := rfl
      refine .pending ⟨rfl, hasked, hnoted, hcontrol, ?_⟩
      simpa [Updater.hasEnded, hholding, hold, hw] using hcount
    · refine .pending ⟨rfl, hasked, hnoted, hcontrol, ?_⟩
      simpa [Updater.hasEnded, hgoing, hw, hw'] using hcount
  | formerWork hindex hwork => rw [hformer.work? hindex] at hwork; cases hwork

/-- A worker that is given up leaves no marker behind. -/
theorem Stage.step_clearing (hformer : FormerEnded c) (hcontrol : c.control = .clearing)
    (hworker : c.updater.worker = none) (hqueue : .stop ∉ c.updater.queue) (hstep : Step c c') :
    Stage c' := by
  cases hstep with
  | post e => exact .clearing hcontrol hworker (Course.not_mem_append_event hqueue e)
  | subscribe listener => exact .clearing hcontrol hworker hqueue
  | release => exact .clearing hcontrol hworker hqueue
  | take =>
    obtain ⟨state, deliveries, journal, htake⟩ := Updater.take_eq c.updater
    rw [htake]
    exact .clearing hcontrol hworker fun hm => hqueue (List.mem_of_mem_tail hm)
  | start hfree => rw [hcontrol] at hfree; cases hfree
  | note hmarked => rw [hcontrol] at hmarked; cases hmarked
  | timesOut hjoining _ => rw [hcontrol] at hjoining; cases hjoining
  | givesUp hjoining _ => rw [hcontrol] at hjoining; cases hjoining
  | clears _ =>
    have hrunning : c.updater.hasEnded = false := by rw [Updater.hasEnded, hworker]; rfl
    exact .quiet ⟨rfl, rfl, hrunning, hqueue⟩
  | work hwork => rw [Updater.work?, hworker] at hwork; cases hwork
  | formerWork hindex hwork => rw [hformer.work? hindex] at hwork; cases hwork

/-- The first stop that a worker is asked for puts the marker into the queue, and no later one. -/
theorem Stage.asks (h : Stage c) {timeout : Value} (hasks : Asks c timeout c') : Stage c' := by
  cases hasks with
  | nobody _ _ => exact h
  | first hfree hworker hflag =>
    cases h with
    | quiet h =>
      have hcount : (c.updater.queue ++ [QueueItem.stop]).count .stop +
          c.updater.hasEnded.toNat ≤ 1 := by
        rw [List.count_append, List.count_eq_zero.mpr h.queue, h.running]
        decide
      exact .pending ⟨Option.isSome_of_eq_some hworker, rfl, .inr ⟨timeout, rfl⟩, by simp, hcount⟩
    | pending h =>
      obtain hflag' | ⟨timeout, hmarked⟩ := h.noted
      · rw [hflag] at hflag'; cases hflag'
      · rw [hfree] at hmarked; cases hmarked
    | clearing hcontrol _ _ => rw [hfree] at hcontrol; cases hcontrol
  | again hfree hworker hflag =>
    cases h with
    | quiet h => rw [h.flag] at hflag; cases hflag
    | pending h => exact .pending ⟨h.worker, rfl, .inl hflag, by simp, h.count⟩
    | clearing hcontrol _ _ => rw [hfree] at hcontrol; cases hcontrol

theorem stage_next (h : Stage c) (hformer : FormerEnded c) (hnext : Next c c') :
    Stage c' ∧ FormerEnded c' := by
  obtain hstep | ⟨timeout, hasks⟩ := hnext
  · refine ⟨?_, hformer.step hstep⟩
    cases h with
    | quiet h => exact .quiet (h.step hformer hstep).1
    | pending h => exact h.step hformer hstep
    | clearing hcontrol hworker hqueue =>
      exact .step_clearing hformer hcontrol hworker hqueue hstep
  · refine ⟨h.asks hasks, ?_⟩
    cases hasks <;> exact hformer

/-! ## Every state that can be reached -/

/-- A new updater, of which no worker was started. -/
def fresh (rule : NameRule) (settings : Settings) (state : OutlineState)
    (listeners : List Listener) : Crew :=
  { updater := { rule, settings, state, listeners } }

theorem Reaches.stage (hc : Reaches c c') (h : Stage c) (hformer : FormerEnded c) :
    Stage c' ∧ FormerEnded c' := by
  induction hc with
  | refl => exact ⟨h, hformer⟩
  | tail _ hnext ih => exact stage_next ih.1 ih.2 hnext

theorem stage_fresh (rule : NameRule) (settings : Settings) (state : OutlineState)
    (listeners : List Listener) :
    Stage (fresh rule settings state listeners) ∧
      FormerEnded (fresh rule settings state listeners) :=
  ⟨.quiet ⟨rfl, rfl, rfl, List.not_mem_nil⟩, List.forall_mem_nil _⟩

theorem Undisturbed.quiet (hc : Undisturbed c c') (h : Quiet c) (hformer : FormerEnded c)
    (hworker : c.updater.worker.isSome = true) :
    Quiet c' ∧ FormerEnded c' ∧ c'.updater.worker.isSome = true := by
  induction hc with
  | refl => exact ⟨h, hformer, hworker⟩
  | tail _ hstep ih =>
    obtain ⟨hquiet, hformer, hworker⟩ := ih
    obtain ⟨hquiet', hworker'⟩ := hquiet.step hformer hstep
    exact ⟨hquiet', hformer.step hstep, hworker' hworker⟩

theorem Stage.pending_of_mem (h : Stage c) (hmarker : .stop ∈ c.updater.queue) : Pending c := by
  cases h with
  | quiet h => exact absurd hmarker h.queue
  | pending h => exact h
  | clearing _ _ hqueue => exact absurd hmarker hqueue

theorem Stage.count_le_one (h : Stage c) : c.updater.queue.count .stop ≤ 1 := by
  by_cases hmarker : .stop ∈ c.updater.queue
  · exact Nat.le_trans (Nat.le_add_right _ _) (h.pending_of_mem hmarker).count
  · rw [List.count_eq_zero.mpr hmarker]
    exact Nat.zero_le 1

theorem Stage.quiet_of_alone (h : Stage c) (hcontrol : c.control = .free)
    (hworker : c.updater.worker = none) : Quiet c := by
  cases h with
  | quiet h => exact h
  | pending h =>
    have hsome := h.worker
    rw [hworker] at hsome
    cases hsome
  | clearing hclearing _ _ => rw [hcontrol] at hclearing; cases hclearing

theorem FormerEnded.countP_le_one (h : FormerEnded c) :
    c.workers.countP (fun w => !w.isEnded) ≤ 1 := by
  have hformer : c.former.countP (fun w => !w.isEnded) = 0 :=
    List.countP_eq_zero.mpr fun w hw => by rw [h w hw]; decide
  rw [workers, List.countP_append, hformer]
  cases c.updater.worker with
  | none => decide
  | some w => exact List.countP_le_length

/-! ## Whole calls -/

/-- Emptying the queue is taking one item after the other. -/
theorem undisturbed_process (c : Crew) :
    Undisturbed c { c with updater := c.updater.process } := by
  generalize hqueue : c.updater.queue = items
  induction items generalizing c with
  | nil =>
    rw [Updater.process_of_nil hqueue]
    exact .refl
  | cons i items ih =>
    have htake : Step c { c with updater := c.updater.take } := .take
    cases i with
    | stop =>
      rw [Updater.process_of_stop hqueue]
      exact .single htake
    | event e =>
      obtain ⟨state, deliveries, journal, hrest⟩ := Updater.take_eq c.updater
      have hall := ih { c with updater := c.updater.take } (by rw [hrest, hqueue, List.tail_cons])
      rw [Updater.process_of_event hqueue] at hall
      exact .head htake hall

/-- A worker that is left alone comes to rest by its own steps. -/
theorem undisturbed_settle (c : Crew) :
    Undisturbed c { c with updater := c.updater.settle } := by
  induction hload : c.updater.load using Nat.strongRecOn generalizing c with
  | _ load ih =>
    unfold Updater.settle
    split
    · exact .refl
    next u hwork =>
      have hless : u.load < load := hload ▸ Updater.load_work? hwork
      exact .head (.work hwork) (ih u.load hless { c with updater := u } rfl)

theorem reaches_requestStop {w : Worker} (hcontrol : c.control = .free)
    (hworker : c.updater.worker = some w) (timeout : Value) :
    Reaches c { c with
      updater := c.updater.requestStop
      control := .joining timeout
      asked := true } := by
  cases hflag : c.updater.stopRequested with
  | false =>
    rw [Updater.requestStop_first hworker hflag]
    exact .head (.inr ⟨timeout, .first hcontrol hworker hflag⟩) (.single (.inl (.note rfl)))
  | true =>
    rw [Updater.requestStop_again hflag]
    exact .single (.inr ⟨timeout, .again hcontrol hworker hflag⟩)

theorem undisturbed_join {timeout : Value} {w : Worker} (hcontrol : c.control = .joining timeout)
    (hworker : c.updater.worker = some w) (hmay : Course.mayReturn c.updater timeout = true) :
    ∃ c', Undisturbed c c' ∧ c'.updater = c.updater.join timeout ∧ c'.control = .free := by
  cases hended : w.isEnded with
  | false =>
    have htime : timeout ≠ .null := by
      rintro rfl
      simp [Course.mayReturn, hworker, hended] at hmay
    rw [Updater.join_late hworker hended]
    exact ⟨_, .single (.timesOut hcontrol htime), rfl, rfl⟩
  | true =>
    cases w with
    | ended =>
      rw [Updater.join_ended hworker]
      exact ⟨_, .head (.givesUp hcontrol hworker) (.single (.clears rfl)), rfl, rfl⟩
    | _ => cases hended

theorem stop_alone {u : Updater} (h : u.worker = none) (timeout : Value) : u.stop timeout = u := by
  have hrequest : u.requestStop = u := by rw [Updater.requestStop, h]
  have hsettle : u.settle = u := by
    unfold Updater.settle
    split
    · rfl
    next v hwork => rw [Updater.work?, h] at hwork; cases hwork
  rw [Updater.stop, hrequest, hsettle, Updater.join, h]

/-- A stop during which the worker comes to rest. -/
theorem Stage.reaches_stop (h : Stage c) (hformer : FormerEnded c) (hcontrol : c.control = .free)
    {timeout : Value} (hmay : c.updater.worker.isSome →
      Course.mayReturn c.updater.requestStop.settle timeout = true) :
    ∃ c', Reaches c c' ∧ c'.updater = c.updater.stop timeout ∧ c'.control = .free := by
  cases hworker : c.updater.worker with
  | none => exact ⟨c, .refl, (stop_alone hworker timeout).symm, hcontrol⟩
  | some w =>
    have hmay := hmay (Option.isSome_of_eq_some hworker)
    have hasked : Reaches c { c with
        updater := c.updater.requestStop.settle
        control := .joining timeout
        asked := true } :=
      (reaches_requestStop hcontrol hworker timeout).trans (undisturbed_settle _).reaches
    obtain ⟨hstage, -⟩ := hasked.stage h hformer
    have hpending : c.updater.requestStop.settle.worker.isSome = true := by
      cases hstage with
      | quiet h => cases h.control
      | pending h => exact h.worker
      | clearing hclearing _ _ => cases hclearing
    obtain ⟨v, hv⟩ := Option.isSome_iff_exists.mp hpending
    obtain ⟨c', hjoin, hupdater, hfree⟩ := undisturbed_join
      (c := { c with
        updater := c.updater.requestStop.settle
        control := .joining timeout
        asked := true }) rfl hv hmay
    exact ⟨c', hasked.trans hjoin.reaches, hupdater, hfree⟩

/-! ## The workers and the marker -/

/-- In every state that calls, posts and workers lead to, in whatever order their steps come: at
most one worker goes on, and at most one stop marker is queued. None is queued unless a stop was
called for the worker that there is, and is noted or about to be. So the worker that is started
after a stop goes on until the next one. Calls that run without a break lead to such states. -/
theorem one_worker_one_marker (rule : NameRule) (settings : Settings) (state : OutlineState)
    (listeners : List Listener) (c : Crew) (hc : Reaches (fresh rule settings state listeners) c) :
    c.workers.countP (fun w => !w.isEnded) ≤ 1 ∧
      c.updater.queue.count .stop ≤ 1 ∧
      (c.stopPending = false → .stop ∉ c.updater.queue) ∧
      (c.updater.stopRequested = false → (∀ timeout, c.control ≠ .marked timeout) →
        .stop ∉ c.updater.queue) ∧
      (c.updater.worker = none → .stop ∉ c.updater.queue) ∧
      (c.control = .free → c.updater.worker = none → ∀ c', Undisturbed c.start c' →
        ∃ w, c'.updater.worker = some w ∧ w.isEnded = false) ∧
      Reaches c { c with updater := c.updater.process } ∧
      (c.control = .free → ∀ timeout,
        (c.updater.worker.isSome →
          Course.mayReturn c.updater.requestStop.settle timeout = true) →
        ∃ c', Reaches c c' ∧ c'.updater = c.updater.stop timeout ∧ c'.control = .free) := by
  obtain ⟨hfresh, hnobody⟩ := stage_fresh rule settings state listeners
  obtain ⟨hstage, hformer⟩ := hc.stage hfresh hnobody
  refine ⟨hformer.countP_le_one, hstage.count_le_one, fun hpending hmarker => ?_,
    fun hflag hcontrol hmarker => ?_, fun hworker hmarker => ?_, fun hcontrol hworker c' hc' => ?_,
    (undisturbed_process c).reaches, fun hcontrol timeout hmay =>
      hstage.reaches_stop hformer hcontrol hmay⟩
  · have h := hstage.pending_of_mem hmarker
    rw [stopPending, h.worker, h.asked] at hpending
    cases hpending
  · obtain hnoted | ⟨timeout, hmarked⟩ := (hstage.pending_of_mem hmarker).noted
    · rw [hflag] at hnoted
      cases hnoted
    · exact hcontrol timeout hmarked
  · have h := (hstage.pending_of_mem hmarker).worker
    rw [hworker] at h
    cases h
  · have hstart : Step c c.start := .start hcontrol
    obtain ⟨hquiet, -⟩ := (hstage.quiet_of_alone hcontrol hworker).step hformer hstart
    have hsome : c.start.updater.worker.isSome = true := by
      rw [Crew.start, Updater.start_alone hworker]
      rfl
    obtain ⟨hquiet', -, hsome'⟩ := hc'.quiet hquiet (hformer.step hstart) hsome
    obtain ⟨w, hw⟩ := Option.isSome_iff_exists.mp hsome'
    refine ⟨w, hw, ?_⟩
    simpa [Updater.hasEnded, hw] using hquiet'.running

/-- A stop is retried before the worker comes to its marker; the worker that is started after that
takes the event that was posted in between. -/
theorem one_worker_one_marker_retried :
    let second : EditorEvent := .changed "a_spec.rb" "describe 1 do"
    ∃ c c', Reaches (fresh .standard .default .empty []) c ∧ c.former = [.ended] ∧
      c.updater.worker = none ∧ .stop ∉ c.updater.queue ∧ Undisturbed c.start c' ∧
      c'.updater.worker = some (.holding second) ∧
      ∃ w, c'.updater.worker = some w ∧ w.isEnded = false := by
  intro second
  have hfresh : Reaches (fresh .standard .default .empty []) _ := .refl
  have hholding := ((hfresh.tail (.inl (.post (.active none none)))).tail (.inl (.start rfl))).tail
    (.inl (.work rfl))
  have htimed := (((hholding.tail (.inr ⟨.int 0, .first rfl rfl rfl⟩)).tail
    (.inl (.note rfl))).tail (.inl (.post second))).tail (.inl (.timesOut rfl nofun))
  have hretried := (htimed.tail (.inr ⟨.int 0, .again rfl rfl rfl⟩)).tail
    (.inl (.timesOut rfl nofun))
  -- Applying it, being done with the listeners, and taking the marker are one step each.
  have hended := ((hretried.tail (.inl (.work rfl))).tail (.inl (.work rfl))).tail
    (.inl (.work rfl))
  have hstopped := ((hended.tail (.inr ⟨.null, .again rfl rfl rfl⟩)).tail
    (.inl (.givesUp rfl rfl))).tail (.inl (.clears rfl))
  obtain ⟨-, -, -, -, halone, hgoes, -⟩ :=
    one_worker_one_marker .standard .default .empty [] _ hstopped
  exact ⟨_, _, hstopped, rfl, rfl, halone rfl, .single (.work rfl), rfl,
    hgoes rfl rfl _ (.single (.work rfl))⟩

end Crew

end SpecSkeleton
