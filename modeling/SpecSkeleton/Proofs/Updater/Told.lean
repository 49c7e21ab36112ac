import Mathlib.Data.List.Forall2
import SpecSkeleton.Proofs.Updater.Step

/-!
# What listeners are told

Without a worker an updater goes on by calls: listeners subscribe, events are posted, and the queue
is emptied. `replaced` lists the states that take the place of another meanwhile, each with the
number of listeners by then. `told_of_replaced` says that each of them is told once to each of these
listeners, in the order in which they subscribed, and nothing else is; so a listener hears of just
the states that come after its subscription, and what the listeners do when they are told, be it a
failure on any call, changes neither the states nor what is told.
-/

namespace SpecSkeleton

/-! ## The states that replace others -/

namespace OutlineState

variable {rule : NameRule} {settings : Settings}

/-- The states that events lead to, one after the other; an event that does not concern the outline
leads to none. -/
def successors (rule : NameRule) (settings : Settings) (s : OutlineState) :
    List EditorEvent → List OutlineState
  | [] => []
  | e :: es =>
    match s.refresh? rule settings e with
    | none => s.successors rule settings es
    | some next => next :: next.successors rule settings es

theorem successors_cons (s : OutlineState) (e : EditorEvent) (es : List EditorEvent) :
    s.successors rule settings (e :: es) =
      (s.refresh? rule settings e).toList ++
        (s.refresh rule settings e).successors rule settings es := by
  rw [successors, refresh]
  cases s.refresh? rule settings e <;> rfl

/-- The last of the states is the one that the events leave. -/
theorem getLast?_successors (es : List EditorEvent) (s : OutlineState) :
    (s.successors rule settings es).getLast?.getD s = es.foldl (refresh rule settings) s := by
  induction es generalizing s with
  | nil => rfl
  | cons e es ih =>
    rw [List.foldl_cons, ← ih, successors_cons, refresh]
    cases s.refresh? rule settings e with
    | none => rfl
    | some next => simp [List.getLast?_cons]

end OutlineState

/-- A state that has replaced another, when so many listeners had subscribed. -/
structure Replacement where
  subscribed : Nat
  state : OutlineState

namespace Replacement

/-- All listeners are told of the state, in the order of their subscription. -/
def round (r : Replacement) : List Delivery :=
  (List.range r.subscribed).map (⟨·, r.state⟩)

/-- What is told to a listener in some rounds. -/
theorem filter_rounds (rs : List Replacement) (index : Nat) :
    ((rs.flatMap round).filter (·.listener == index)).map Delivery.state =
      (rs.filter fun r => index < r.subscribed).map state := by
  induction rs with
  | nil => rfl
  | cons r rs ih =>
    have hround : (r.round.filter (·.listener == index)).map Delivery.state =
        if index < r.subscribed then [r.state] else [] := by
      have hself : (List.range r.subscribed).filter (· == index) =
          if index < r.subscribed then [index] else [] := by
        rw [List.filter_beq, List.count_range]
        split <;> rfl
      have hlisteners : (fun d : Delivery => d.listener == index) ∘ (⟨·, r.state⟩) =
          (· == index) := rfl
      rw [round, List.filter_map, hlisteners, hself]
      split <;> rfl
    rw [List.flatMap_cons, List.filter_append, List.map_append, ih, hround, List.filter_cons]
    by_cases h : index < r.subscribed <;> simp [h]

end Replacement

namespace Updater

/-! ## Calls -/

/-- A call on an updater without a worker. -/
inductive Call where
  | subscribe (listener : Listener)
  | post (e : EditorEvent)
  | process

/-- The listener that subscribes. -/
def Call.listener? : Call → Option Listener
  | subscribe listener => some listener
  | _ => none

def call (u : Updater) : Call → Updater
  | .subscribe listener => u.subscribe listener
  | .post e => u.post e
  | .process => u.process

def calls (u : Updater) (cs : List Call) : Updater :=
  cs.foldl call u

/-- The states that replace one another in a call. -/
def replacedBy (u : Updater) : Call → List Replacement
  | .process =>
    (u.state.successors u.rule u.settings (QueueItem.drained u.queue)).map (⟨u.listeners.length, ·⟩)
  | _ => []

/-- The states that replace one another in some calls. -/
def replaced (u : Updater) : List Call → List Replacement
  | [] => []
  | c :: cs => u.replacedBy c ++ (u.call c).replaced cs

/-- The states of which the listener at an index has been told. -/
def told (u : Updater) (index : Nat) : List OutlineState :=
  (u.deliveries.filter (·.listener == index)).map Delivery.state

theorem calls_append (u : Updater) (cs ds : List Call) :
    u.calls (cs ++ ds) = (u.calls cs).calls ds :=
  List.foldl_append

/-! ## One call -/

theorem deliveries_drain (items : List QueueItem) (u : Updater) :
    (u.drain items).deliveries = u.deliveries ++
      ((u.state.successors u.rule u.settings (QueueItem.drained items)).map
        (⟨u.listeners.length, ·⟩)).flatMap Replacement.round := by
  induction items generalizing u with
  | nil => exact (List.append_nil _).symm
  | cons i items ih =>
    cases i with
    | stop => exact (List.append_nil _).symm
    | event e =>
      obtain ⟨deliveries, journal, happly⟩ := apply_eq u e
      have htold := deliveries_apply u e
      rw [drain, ih, htold, happly, QueueItem.drained, OutlineState.successors_cons,
        List.map_append, List.flatMap_append, ← List.append_assoc]
      congr 2
      cases u.state.refresh? u.rule u.settings e with
      | none => rfl
      | some next => simp [Replacement.round]

theorem deliveries_call (u : Updater) (c : Call) :
    (u.call c).deliveries = u.deliveries ++ (u.replacedBy c).flatMap Replacement.round := by
  cases c with
  | subscribe listener => exact (List.append_nil _).symm
  | post e => exact (List.append_nil _).symm
  | process => exact deliveries_drain u.queue u

theorem state_call (u : Updater) (c : Call) :
    (u.call c).state = ((u.replacedBy c).getLast?.map Replacement.state).getD u.state := by
  cases c with
  | subscribe listener => rfl
  | post e => rfl
  | process =>
    obtain ⟨deliveries, journal, hdrain⟩ := drain_eq u.queue u
    rw [call, process, hdrain, replacedBy, List.getLast?_map, Option.map_map,
      ← OutlineState.getLast?_successors]
    cases (u.state.successors u.rule u.settings (QueueItem.drained u.queue)).getLast? <;> rfl

theorem listeners_call (u : Updater) (c : Call) :
    (u.call c).listeners = u.listeners ++ c.listener?.toList := by
  cases c with
  | subscribe listener => rfl
  | post e => exact (List.append_nil _).symm
  | process =>
    obtain ⟨deliveries, journal, hdrain⟩ := drain_eq u.queue u
    rw [call, process, hdrain]
    exact (List.append_nil _).symm

theorem subscribed_of_mem_replacedBy {u : Updater} {c : Call} {r : Replacement}
    (h : r ∈ u.replacedBy c) : r.subscribed = u.listeners.length := by
  cases c with
  | subscribe listener => cases h
  | post e => cases h
  | process =>
    obtain ⟨s, -, rfl⟩ := List.mem_map.mp h
    rfl

/-! ## Some calls -/

theorem deliveries_calls (cs : List Call) (u : Updater) :
    (u.calls cs).deliveries = u.deliveries ++ (u.replaced cs).flatMap Replacement.round := by
  induction cs generalizing u with
  | nil => exact (List.append_nil _).symm
  | cons c cs ih =>
    have hrest := ih (u.call c)
    rw [deliveries_call, List.append_assoc, ← List.flatMap_append] at hrest
    exact hrest

theorem state_calls (cs : List Call) (u : Updater) :
    (u.calls cs).state = ((u.replaced cs).getLast?.map Replacement.state).getD u.state := by
  induction cs generalizing u with
  | nil => rfl
  | cons c cs ih =>
    have hrest := ih (u.call c)
    rw [state_call] at hrest
    refine hrest.trans ?_
    rw [replaced, List.getLast?_append]
    cases ((u.call c).replaced cs).getLast? <;> rfl

theorem listeners_calls (cs : List Call) (u : Updater) :
    (u.calls cs).listeners = u.listeners ++ cs.filterMap Call.listener? := by
  induction cs generalizing u with
  | nil => exact (List.append_nil _).symm
  | cons c cs ih =>
    have hrest := ih (u.call c)
    rw [listeners_call, List.append_assoc] at hrest
    refine hrest.trans ?_
    cases h : c.listener? <;> simp [h]

/-- Those who are told of a state have subscribed before it, and not after it. -/
theorem subscribed_of_mem_replaced {cs : List Call} {u : Updater} {r : Replacement}
    (h : r ∈ u.replaced cs) :
    u.listeners.length ≤ r.subscribed ∧ r.subscribed ≤ (u.calls cs).listeners.length := by
  induction cs generalizing u with
  | nil => cases h
  | cons c cs ih =>
    rcases List.mem_append.mp h with h | h
    · rw [subscribed_of_mem_replacedBy h, listeners_calls, List.length_append]
      omega
    · obtain ⟨hlow, hhigh⟩ := ih h
      rw [listeners_call, List.length_append] at hlow
      exact ⟨by omega, hhigh⟩

theorem told_calls (cs : List Call) (u : Updater) (index : Nat) :
    (u.calls cs).told index = u.told index ++
      ((u.replaced cs).filter fun r => index < r.subscribed).map Replacement.state := by
  rw [told, deliveries_calls, List.filter_append, List.map_append, Replacement.filter_rounds]
  rfl

/-- Who has subscribed hears of all states that come after. -/
theorem told_calls_of_lt {u : Updater} {index : Nat} (h : index < u.listeners.length)
    (cs : List Call) :
    (u.calls cs).told index = u.told index ++ (u.replaced cs).map Replacement.state := by
  rw [told_calls, List.filter_eq_self.mpr fun r hr => ?_]
  exact decide_eq_true (Nat.lt_of_lt_of_le h (subscribed_of_mem_replaced hr).1)

/-- Who has not subscribed in the end hears of nothing. -/
theorem told_calls_of_le {u : Updater} {cs : List Call} {index : Nat}
    (h : (u.calls cs).listeners.length ≤ index) : (u.calls cs).told index = u.told index := by
  rw [told_calls, List.filter_eq_nil_iff.mpr fun r hr => ?_, List.map_nil, List.append_nil]
  have hlate := (subscribed_of_mem_replaced hr).2
  simp only [decide_eq_true_eq]
  omega

/-! ## Other listeners -/

/-- The same call, but for what the listener does. -/
inductive Call.Alike : Call → Call → Prop where
  | subscribe (listener listener' : Listener) : Alike (.subscribe listener) (.subscribe listener')
  | post (e : EditorEvent) : Alike (.post e) (.post e)
  | process : Alike .process .process

/-- The same updater, but for what its listeners do and what is written to the log. -/
structure SameButListeners (u v : Updater) : Prop where
  rule : u.rule = v.rule
  settings : u.settings = v.settings
  state : u.state = v.state
  queue : u.queue = v.queue
  deliveries : u.deliveries = v.deliveries
  count : u.listeners.length = v.listeners.length

variable {u v : Updater}

theorem SameButListeners.replacedBy_eq (h : SameButListeners u v) {c c' : Call}
    (hc : c.Alike c') : u.replacedBy c = v.replacedBy c' := by
  cases hc with
  | subscribe listener listener' => rfl
  | post e => rfl
  | process => rw [replacedBy, replacedBy, h.rule, h.settings, h.state, h.queue, h.count]

theorem SameButListeners.call (h : SameButListeners u v) {c c' : Call} (hc : c.Alike c') :
    SameButListeners (u.call c) (v.call c') := by
  have hdeliveries : (u.call c).deliveries = (v.call c').deliveries := by
    rw [deliveries_call, deliveries_call, h.deliveries, h.replacedBy_eq hc]
  cases hc with
  | subscribe listener listener' =>
    refine ⟨h.rule, h.settings, h.state, h.queue, hdeliveries, ?_⟩
    simp [Updater.call, subscribe, h.count]
  | post e =>
    refine ⟨h.rule, h.settings, h.state, ?_, hdeliveries, h.count⟩
    simp only [Updater.call, post, h.queue]
  | process =>
    obtain ⟨du, ju, hu⟩ := drain_eq u.queue u
    obtain ⟨dv, jv, hv⟩ := drain_eq v.queue v
    rw [Updater.call, process, Updater.call, process, hu, hv] at hdeliveries ⊢
    refine ⟨h.rule, h.settings, ?_, ?_, hdeliveries, h.count⟩
    · simp only [h.rule, h.settings, h.state, h.queue]
    · simp only [h.queue]

theorem SameButListeners.calls {cs cs' : List Call} (hcs : List.Forall₂ Call.Alike cs cs')
    (h : SameButListeners u v) :
    SameButListeners (u.calls cs) (v.calls cs') ∧ u.replaced cs = v.replaced cs' := by
  induction hcs generalizing u v with
  | nil => exact ⟨h, rfl⟩
  | cons hc _ ih =>
    obtain ⟨hrest, hreplaced⟩ := ih (h.call hc)
    exact ⟨hrest, by rw [replaced, replaced, h.replacedBy_eq hc, hreplaced]⟩

/-! ## Updaters from the start -/

/-- Without a worker, each state that replaces another is told once to each listener that has
subscribed by then, in the order of subscription, and nothing else is told. So a listener hears of
just the states that come after its subscription, in their order, and none of this changes if
listeners do other things when they are told, such as failing. -/
theorem told_of_replaced (rule : NameRule) (settings : Settings) (state : OutlineState)
    (listeners : List Listener) (cs : List Call) :
    let u : Updater := { rule, settings, state, listeners }
    (u.calls cs).state = ((u.replaced cs).getLast?.map Replacement.state).getD state ∧
      (u.calls cs).deliveries = (u.replaced cs).flatMap Replacement.round ∧
      (∀ index < listeners.length,
        (u.calls cs).told index = (u.replaced cs).map Replacement.state) ∧
      (∀ before listener after, cs = before ++ .subscribe listener :: after →
        let index := (u.calls before).listeners.length
        (u.calls cs).listeners[index]? = some listener ∧
          (u.calls cs).told index =
            ((u.calls (before ++ [.subscribe listener])).replaced after).map Replacement.state) ∧
      ∀ listeners' cs', listeners'.length = listeners.length → List.Forall₂ Call.Alike cs cs' →
        let v : Updater := { rule, settings, state, listeners := listeners' }
        (v.calls cs').state = (u.calls cs).state ∧ v.replaced cs' = u.replaced cs ∧
          (v.calls cs').deliveries = (u.calls cs).deliveries := by
  intro u
  refine ⟨state_calls cs u, deliveries_calls cs u, fun index h => told_calls_of_lt h cs, ?_, ?_⟩
  · rintro before listener after rfl index
    have hsplit : u.calls (before ++ .subscribe listener :: after) =
        (u.calls (before ++ [.subscribe listener])).calls after := by
      rw [← calls_append, List.append_assoc, List.singleton_append]
    have hlisteners : (u.calls (before ++ [.subscribe listener])).listeners =
        (u.calls before).listeners ++ [listener] := by
      rw [calls_append]
      rfl
    have hindex : index < (u.calls (before ++ [.subscribe listener])).listeners.length := by
      rw [hlisteners, List.length_append]
      exact Nat.lt_succ_self _
    have hearlier : (u.calls (before ++ [.subscribe listener])).told index = [] := by
      have hbefore : (u.calls before).told index = u.told index :=
        told_calls_of_le (Nat.le_refl _)
      rw [calls_append]
      exact hbefore
    rw [hsplit]
    refine ⟨?_, ?_⟩
    · rw [listeners_calls, hlisteners, List.append_assoc]
      exact List.getElem?_append_right (Nat.le_refl _) |>.trans (by simp)
    · rw [told_calls_of_lt hindex, hearlier, List.nil_append]
  · intro listeners' cs' hcount hcs v
    have hstart : SameButListeners u v := ⟨rfl, rfl, rfl, rfl, rfl, hcount.symm⟩
    obtain ⟨hsame, hreplaced⟩ := hstart.calls hcs
    exact ⟨hsame.state.symm, hreplaced.symm, hsame.deliveries.symm⟩

/-- One listener fails on every call, another one subscribes between two states; a change of a file
that is not shown is told to neither. -/
theorem told_of_replaced_failing :
    let fails : Listener := fun _ _ => .fails "listener bug"
    let keeps : Listener := fun _ _ => .returns
    let before : List Call := [.post (.active (some "a_spec.rb") (some "it 'a' do")), .process]
    let after : List Call :=
      [.post (.changed "b_spec.rb" "it 'b' do"), .post (.active none none), .process]
    let cs := before ++ .subscribe keeps :: after
    let u : Updater := { listeners := [fails] }
    let v : Updater := { listeners := [keeps] }
    ((u.calls cs).told 0).map OutlineState.file = [some "a_spec.rb", none] ∧
      ((u.calls cs).told 1).map OutlineState.file = [none] ∧
      (v.calls cs).deliveries = (u.calls cs).deliveries := by
  intro fails keeps before after cs u v
  obtain ⟨-, -, hfirst, hlater, hother⟩ := told_of_replaced .standard {} {} [fails] cs
  have hsame : List.Forall₂ Call.Alike cs cs :=
    .cons (.post _) (.cons .process (.cons (.subscribe _ _)
      (.cons (.post _) (.cons (.post _) (.cons .process .nil)))))
  obtain ⟨-, -, hdeliveries⟩ := hother [keeps] cs rfl hsame
  obtain ⟨-, hsecond⟩ := hlater before keeps after rfl
  have hindex : (u.calls before).listeners.length = 1 := by rw [listeners_calls]; rfl
  rw [hindex] at hsecond
  refine ⟨?_, ?_, hdeliveries⟩
  · rw [hfirst 0 (by decide)]
    decide +kernel
  · rw [hsecond]
    decide +kernel

end Updater

end SpecSkeleton
