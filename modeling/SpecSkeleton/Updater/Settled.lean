import SpecSkeleton.Updater.Basic

/-!
# Workers at rest

A worker that is left alone comes to rest: it waits for an event or for a listener, or it has ended.
Main statement: each of its steps makes its remaining work smaller, so that `settle` ends.
-/

namespace SpecSkeleton.Updater

/-- A bound on the steps that end the round in which the worker is. -/
def roundLoad (listeners : Nat) : Worker → Nat
  | .idle => 0
  | .ended => 0
  | .holding _ => 3 * listeners + 2
  | .telling _ index => 3 * (listeners - index) + 1
  | .waiting _ index => 3 * (listeners - (index + 1)) + 2

/-- A bound on the steps that the worker can take without a further command. -/
def load (u : Updater) : Nat :=
  u.queue.length * (3 * u.listeners.length + 3) +
    (u.worker.map (roundLoad u.listeners.length)).getD 0

@[simp]
theorem queue_deliver (u : Updater) (s : OutlineState) (index : Nat) :
    (u.deliver s index).queue = u.queue := by
  unfold deliver; split <;> rfl

@[simp]
theorem listeners_deliver (u : Updater) (s : OutlineState) (index : Nat) :
    (u.deliver s index).listeners = u.listeners := by
  unfold deliver; split <;> rfl

theorem queue_accept? {u next : Updater} {e : EditorEvent} (h : u.accept? e = some next) :
    next.queue = u.queue ∧ next.listeners = u.listeners := by
  obtain ⟨s, -, rfl⟩ := Option.map_eq_some_iff.1 h
  exact ⟨rfl, rfl⟩

theorem load_tell {u : Updater} {s : OutlineState} {index : Nat} (h : index < u.listeners.length) :
    (u.tell s index).load <
      u.queue.length * (3 * u.listeners.length + 3) + (3 * (u.listeners.length - index) + 1) := by
  unfold tell
  split <;> simp [load, roundLoad] <;> omega

theorem load_work? {u v : Updater} (h : u.work? = some v) : v.load < u.load := by
  unfold work? at h
  split at h
  · simp at h
  · simp at h
  next hw =>
    split at h
    · simp at h
    next rest hq =>
      obtain rfl := Option.some.inj h
      simp [load, roundLoad, hw, hq, Nat.add_mul]
    next e rest hq =>
      obtain rfl := Option.some.inj h
      simp [load, roundLoad, hw, hq, Nat.add_mul]
  next e hw =>
    split at h
    next => obtain rfl := Option.some.inj h; simp [load, roundLoad, hw]
    next next ha =>
      obtain rfl := Option.some.inj h
      obtain ⟨hq, hl⟩ := queue_accept? ha
      simp [load, roundLoad, hw, hq, hl]
  next s index hw =>
    split at h
    next hi => obtain rfl := Option.some.inj h; simpa [load, roundLoad, hw] using load_tell hi
    next => obtain rfl := Option.some.inj h; simp [load, roundLoad, hw]
  next s index hw =>
    split at h
    next => obtain rfl := Option.some.inj h; simp [load, roundLoad, hw]
    next => simp at h

/-- Lets the worker go on until it comes to rest. -/
def settle (u : Updater) : Updater :=
  match _h : u.work? with
  | none => u
  | some v => v.settle
termination_by u.load
decreasing_by exact load_work? _h

/-- Stops the worker and waits for it, as long as it goes on. -/
def stop (u : Updater) (timeout : Value) : Updater :=
  u.requestStop.settle.join timeout

end SpecSkeleton.Updater
