import Mathlib.Data.List.Forall2

/-!
# The first failure along a list

A function that may fail, applied along a list, gives all its results or the first of its failures.
-/

namespace SpecSkeleton

variable {α β ε : Type} {f : α → Except ε β}

/-- The first element of a list on which a function fails, it fails on in this way. -/
def FailsFirst (f : α → Except ε β) (xs : List α) (failure : ε) : Prop :=
  ∃ before x after, xs = before ++ x :: after ∧ (∀ b ∈ before, ∃ y, f b = .ok y) ∧
    f x = .error failure

theorem FailsFirst.head {x : α} {failure : ε} (hx : f x = .error failure) (xs : List α) :
    FailsFirst f (x :: xs) failure :=
  ⟨[], x, xs, rfl, nofun, hx⟩

theorem FailsFirst.tail {x : α} {y : β} {xs : List α} {failure : ε}
    (h : FailsFirst f xs failure) (hx : f x = .ok y) : FailsFirst f (x :: xs) failure := by
  obtain ⟨before, z, after, rfl, hbefore, hz⟩ := h
  exact ⟨x :: before, z, after, rfl, List.forall_mem_cons.mpr ⟨⟨y, hx⟩, hbefore⟩, hz⟩

/-- What is done to results does not matter to failures. -/
theorem FailsFirst.map_iff {γ : Type} {g : α → β → γ} {xs : List α} {failure : ε} :
    FailsFirst (fun x => (f x).map (g x)) xs failure ↔ FailsFirst f xs failure := by
  have hok (x : α) : (∃ y, (f x).map (g x) = .ok y) ↔ ∃ y, f x = .ok y := by
    cases f x <;> simp [Except.map]
  have herror (x : α) : (f x).map (g x) = .error failure ↔ f x = .error failure := by
    cases f x <;> simp [Except.map]
  simp only [FailsFirst, hok, herror]

theorem exists_failsFirst_iff {xs : List α} :
    (∃ failure, FailsFirst f xs failure) ↔ ∃ x ∈ xs, ∃ failure, f x = .error failure := by
  constructor
  · rintro ⟨failure, before, x, after, rfl, -, hx⟩
    exact ⟨x, by simp, failure, hx⟩
  · rintro ⟨x, hmem, failure, hx⟩
    induction xs with
    | nil => cases hmem
    | cons y xs ih =>
      cases hy : f y with
      | error other => exact ⟨other, .head hy xs⟩
      | ok z =>
        obtain rfl | hmem := List.mem_cons.mp hmem
        · cases hy.symm.trans hx
        · obtain ⟨first, hfirst⟩ := ih hmem
          exact ⟨first, hfirst.tail hy⟩

theorem mapM_cons_of_error {x : α} {failure : ε} (hx : f x = .error failure) (xs : List α) :
    (x :: xs).mapM f = .error failure := by
  rw [List.mapM_cons, hx]
  rfl

theorem mapM_cons_of_ok {x : α} {y : β} (hx : f x = .ok y) (xs : List α) :
    (x :: xs).mapM f = (xs.mapM f).map (y :: ·) := by
  rw [List.mapM_cons, hx]
  cases xs.mapM f <;> rfl

theorem mapM_congr {g : α → Except ε β} {xs : List α} (h : ∀ x ∈ xs, f x = g x) :
    xs.mapM f = xs.mapM g := by
  induction xs with
  | nil => rfl
  | cons x xs ih =>
    obtain ⟨hx, hxs⟩ := List.forall_mem_cons.mp h
    rw [List.mapM_cons, List.mapM_cons, hx, ih hxs]

theorem mapM_eq_ok_iff {xs : List α} {ys : List β} :
    xs.mapM f = .ok ys ↔ List.Forall₂ (fun x y => f x = .ok y) xs ys := by
  induction xs generalizing ys with
  | nil => cases ys <;> simp [pure, Except.pure]
  | cons x xs ih =>
    cases hx : f x with
    | error failure => rw [mapM_cons_of_error hx]; cases ys <;> simp [hx]
    | ok y =>
      rw [mapM_cons_of_ok hx]
      cases ys with
      | nil => cases xs.mapM f <;> simp [Except.map]
      | cons y' ys =>
        rw [List.forall₂_cons, ← ih, hx]
        cases xs.mapM f <;> simp [Except.map]

/-- Lists that come of the elements, put together. -/
theorem mapM_flatten_eq_ok {g : α → Except ε (List β)} {xs : List α} {ys : List β}
    (h : (xs.mapM g).map List.flatten = .ok ys) :
    (∀ x ∈ xs, ∃ zs, g x = .ok zs) ∧ ∀ y, y ∈ ys ↔ ∃ x ∈ xs, ∃ zs, g x = .ok zs ∧ y ∈ zs := by
  cases hxs : xs.mapM g with
  | error failure =>
    rw [hxs] at h
    cases h
  | ok yss =>
    rw [hxs] at h
    cases h
    have hall := mapM_eq_ok_iff.mp hxs
    clear hxs
    induction hall with
    | nil => simp
    | @cons x zs xs yss hx _ ih =>
      obtain ⟨hok, hmem⟩ := ih
      refine ⟨List.forall_mem_cons.mpr ⟨⟨zs, hx⟩, hok⟩, fun y => ?_⟩
      rw [List.flatten_cons, List.mem_append, hmem, List.exists_mem_cons_iff, hx]
      simp

theorem mapM_eq_error_iff {xs : List α} {failure : ε} :
    xs.mapM f = .error failure ↔ FailsFirst f xs failure := by
  constructor
  · intro h
    induction xs with
    | nil => cases h
    | cons x xs ih =>
      cases hx : f x with
      | error other =>
        rw [mapM_cons_of_error hx] at h
        cases h
        exact .head hx xs
      | ok y =>
        rw [mapM_cons_of_ok hx] at h
        cases hxs : xs.mapM f with
        | error other =>
          rw [hxs] at h
          cases h
          exact (ih hxs).tail hx
        | ok ys =>
          rw [hxs] at h
          cases h
  · rintro ⟨before, x, after, rfl, hbefore, hx⟩
    induction before with
    | nil => exact mapM_cons_of_error hx after
    | cons b before ih =>
      obtain ⟨⟨y, hb⟩, hbefore⟩ := List.forall_mem_cons.mp hbefore
      rw [List.cons_append, mapM_cons_of_ok hb, ih hbefore]
      rfl

theorem mapM_flatten_eq_error_iff {g : α → Except ε (List β)} {xs : List α} {failure : ε} :
    (xs.mapM g).map List.flatten = .error failure ↔ FailsFirst g xs failure := by
  rw [← mapM_eq_error_iff]
  cases xs.mapM g <;> simp [Except.map]

end SpecSkeleton
