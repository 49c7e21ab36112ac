import SpecSkeleton.Outline.State
import SpecSkeleton.Value.Shown

/-!
# Updaters

An updater holds the state of an outline, a queue of editor events and the listeners that are told
of each new state, in the order in which they subscribed. The queue is emptied either by the caller
or by a worker, which runs until it takes a stop marker. A worker moves in small steps, so that any
order of its steps and the caller's commands is a run.

A listener is known by what it does on each call. A failure of a listener is told to the log and
stops nothing. A listener may also wait until it is released; that holds up a worker.
-/

namespace SpecSkeleton

inductive Reaction where
  | returns
  | fails (message : String)
  | waits
  deriving DecidableEq, Repr

/-- What a listener does on its call with a given number, counted from zero, for a given state. -/
abbrev Listener := Nat → OutlineState → Reaction

inductive QueueItem where
  | event (e : EditorEvent)
  | stop
  deriving DecidableEq, Repr

def QueueItem.event? : QueueItem → Option EditorEvent
  | event e => some e
  | stop => none

inductive Worker where
  /-- About to take an item from the queue. -/
  | idle
  /-- Has taken an event and not yet applied it. -/
  | holding (e : EditorEvent)
  /-- Is telling the listeners of a state, the one at the index next. -/
  | telling (s : OutlineState) (index : Nat)
  /-- The listener at the index does not return. -/
  | waiting (s : OutlineState) (index : Nat)
  | ended
  deriving Repr

/-- A call of the listener at an index. -/
structure Delivery where
  listener : Nat
  state : OutlineState
  deriving Repr

structure Updater where
  rule : NameRule := .standard
  settings : Settings := {}
  state : OutlineState := {}
  listeners : List Listener := []
  queue : List QueueItem := []
  worker : Option Worker := none
  /-- A stop marker has been put into the queue for the worker. -/
  stopRequested : Bool := false
  /-- Listeners that wait have been let go, now and later. -/
  released : Bool := false
  deliveries : List Delivery := []
  journal : Journal := []

namespace Updater

def log (u : Updater) (records : Journal) : Updater :=
  { u with journal := u.journal ++ records }

def callsOf (u : Updater) (index : Nat) : Nat :=
  u.deliveries.countP (·.listener == index)

/-- What the listener at an index does when it is told of a state now. -/
def reaction (u : Updater) (index : Nat) (s : OutlineState) : Reaction :=
  match u.listeners[index]? with
  | some listener => listener (u.callsOf index) s
  | none => .returns

/-- Tells the listener at an index of a state, without waiting for it. -/
def deliver (u : Updater) (s : OutlineState) (index : Nat) : Updater :=
  let told := { u with deliveries := u.deliveries ++ [⟨index, s⟩] }
  match u.reaction index s with
  | .fails message => told.log [outlineRecord .error s!"Outline listener failed: {message}"]
  | _ => told

/-- Moves on to the state after an event, if it concerns the outline. -/
def accept? (u : Updater) (e : EditorEvent) : Option Updater :=
  (u.state.refresh? u.rule u.settings e).map fun next =>
    ({ u with state := next }).log (u.state.refreshJournal u.rule u.settings e)

/-- Applies an event and tells all listeners of the new state. -/
def apply (u : Updater) (e : EditorEvent) : Updater :=
  match u.accept? e with
  | none => u
  | some next => (List.range next.listeners.length).foldl (·.deliver next.state ·) next

/-! ## Commands of the caller -/

def subscribe (u : Updater) (listener : Listener) : Updater :=
  { u with listeners := u.listeners ++ [listener] }

def post (u : Updater) (e : EditorEvent) : Updater :=
  { u with queue := u.queue ++ [.event e] }

/-- Applies the events of a queue, up to the end or past the first stop marker. -/
def drain (u : Updater) : List QueueItem → Updater
  | [] => { u with queue := [] }
  | .stop :: rest => { u with queue := rest }
  | .event e :: rest => (u.apply e).drain rest

/-- Empties the queue on the caller's side. -/
def process (u : Updater) : Updater :=
  u.drain u.queue

/-- Starts a worker unless there is one. -/
def start (u : Updater) : Updater :=
  match u.worker with
  | none => { u with worker := some .idle }
  | some _ => u

/-- Asks the worker to stop after the events queued so far, once for each worker. -/
def requestStop (u : Updater) : Updater :=
  match u.worker with
  | none => u
  | some _ =>
    if u.stopRequested then u
    else { u with queue := u.queue ++ [.stop], stopRequested := true }

/-- Gives up a worker that has ended; one that still runs after the time it was given is told to the
log. -/
def join (u : Updater) (timeout : Value) : Updater :=
  match u.worker with
  | none => u
  | some .ended => { u with worker := none, stopRequested := false }
  | some _ =>
    u.log [outlineRecord .warning s!"Outline updater did not stop within {timeout.shown} seconds"]

def release (u : Updater) : Updater :=
  { u with released := true }

/-! ## Steps of the worker -/

/-- The worker tells the listener at an index of a state. -/
def tell (u : Updater) (s : OutlineState) (index : Nat) : Updater :=
  let told := u.deliver s index
  if u.reaction index s = .waits ∧ u.released = false then
    { told with worker := some (.waiting s index) }
  else { told with worker := some (.telling s (index + 1)) }

/-- The next step of the worker, none if it has nothing to do, waits or has ended. -/
def work? (u : Updater) : Option Updater :=
  match u.worker with
  | none => none
  | some .ended => none
  | some .idle =>
    match u.queue with
    | [] => none
    | .stop :: rest => some { u with queue := rest, worker := some .ended }
    | .event e :: rest => some { u with queue := rest, worker := some (.holding e) }
  | some (.holding e) =>
    match u.accept? e with
    | none => some { u with worker := some .idle }
    | some next => some { next with worker := some (.telling next.state 0) }
  | some (.telling s index) =>
    if index < u.listeners.length then some (u.tell s index)
    else some { u with worker := some .idle }
  | some (.waiting s index) =>
    if u.released then some { u with worker := some (.telling s (index + 1)) } else none

end Updater

end SpecSkeleton
