import Mathlib.Data.List.Infix
import SpecSkeleton.Proofs.List.FirstFailure
import SpecSkeleton.Proofs.Node.Lineage

/-!
# Positions in a forest

A position is a list of natural numbers that leads from the roots to a node (`At`). The walk lists
each position once, in lexicographic order (`mem_walk_iff`, `walk_pairwise`). Looking a path up
reads its negative indices from the end (`Counts`) and finds the node at the position that comes of
it, or fails (`nodeAt_eq_ok_iff`). The ancestors of a path are what its prefixes look up
(`ancestors_eq_mapM`). `walk_and_lookUp` puts the three together.
-/

namespace SpecSkeleton.Forest

variable {roots : Forest} {f rest : List Node} {n m : Node} {base q : IndexPath} {p : List Nat}

/-- A node stands at a position among siblings: the first index picks one of them, the next one of
its children, and so on. -/
inductive At : List Node → List Nat → Node → Prop where
  | sibling {f : List Node} {k : Nat} {n : Node} (hk : f[k]? = some n) : At f [k] n
  | inside {f : List Node} {k : Nat} {n m : Node} {p : List Nat} (hk : f[k]? = some n)
      (hm : At n.children p m) : At f (k :: p) m

theorem At.ne_nil (h : At f p n) : p ≠ [] := by
  cases h <;> exact List.cons_ne_nil _ _

theorem at_cons_iff {k : Nat} : At f (k :: p) m ↔
    ∃ n, f[k]? = some n ∧ (p = [] ∧ n = m ∨ At n.children p m) := by
  constructor
  · intro h
    cases h with
    | sibling hk => exact ⟨m, hk, .inl ⟨rfl, rfl⟩⟩
    | inside hk hm => exact ⟨_, hk, .inr hm⟩
  · rintro ⟨n, hk, ⟨rfl, rfl⟩ | hm⟩
    · exact .sibling hk
    · exact .inside hk hm

/-! ## The walk -/

/-- The walk of siblings that come after `k` others lists the positions below their parent. -/
theorem mem_walkSiblings_iff (f : List Node) : ∀ (base : IndexPath) (k : Nat) (q : IndexPath)
    (m : Node), (q, m) ∈ walkSiblings base k f ↔
      ∃ (i : Nat) (p : List Nat), At f (i :: p) m ∧
        q = base ++ (((k + i : Nat) : Int) :: p.map Nat.cast) := by
  induction f using siblings_induct with
  | nil => simp [walkSiblings, at_cons_iff]
  | cons n rest ihc ihr =>
    intro base k q m
    rw [walkSiblings_cons, List.mem_cons, List.mem_append, ihc, ihr]
    constructor
    · rintro (h | ⟨i, p, hm, rfl⟩ | ⟨i, p, hm, rfl⟩)
      · cases h
        exact ⟨0, [], .sibling rfl, rfl⟩
      · refine ⟨0, i :: p, .inside rfl hm, ?_⟩
        rw [List.append_assoc, Nat.zero_add]
        rfl
      · obtain ⟨m', hk, hrest⟩ := at_cons_iff.mp hm
        refine ⟨i + 1, p, at_cons_iff.mpr ⟨m', hk, hrest⟩, ?_⟩
        rw [Nat.add_assoc, Nat.add_comm 1 i]
    · rintro ⟨i, p, hm, rfl⟩
      obtain ⟨m', hk, hbelow⟩ := at_cons_iff.mp hm
      cases i with
      | zero =>
        cases hk
        obtain ⟨rfl, rfl⟩ | hbelow := hbelow
        · exact .inl rfl
        · cases p with
          | nil => exact absurd rfl hbelow.ne_nil
          | cons j p =>
            refine .inr (.inl ⟨j, p, hbelow, ?_⟩)
            rw [List.append_assoc, Nat.zero_add]
            rfl
      | succ i =>
        refine .inr (.inr ⟨i, p, at_cons_iff.mpr ⟨m', hk, hbelow⟩, ?_⟩)
        rw [Nat.add_assoc, Nat.add_comm 1 i]

/-- The walk lists every position, after the path that it continues, with the node there. -/
theorem mem_walk_iff :
    (q, n) ∈ roots.walk base ↔ ∃ p, At roots p n ∧ q = base ++ p.map Nat.cast := by
  rw [walk, mem_walkSiblings_iff]
  simp only [Nat.zero_add]
  constructor
  · rintro ⟨i, p, hn, rfl⟩
    exact ⟨i :: p, hn, rfl⟩
  · rintro ⟨p, hn, rfl⟩
    cases p with
    | nil => exact absurd rfl hn.ne_nil
    | cons i p => exact ⟨i, p, hn, rfl⟩

theorem append_cons_lt {i j : Int} (h : i < j) (base p p' : IndexPath) :
    base ++ i :: p < base ++ j :: p' :=
  List.append_left_lt (List.cons_lt_cons_iff.mpr (.inl h))

/-- The walk goes up in lexicographic order: a node, those below it, its later siblings. -/
theorem walkSiblings_pairwise (f : List Node) : ∀ (base : IndexPath) (k : Nat),
    (walkSiblings base k f).Pairwise fun a b => a.1 < b.1 := by
  induction f using siblings_induct with
  | nil =>
    intro base k
    exact .nil
  | cons n rest ihc ihr =>
    intro base k
    rw [walkSiblings_cons, List.pairwise_cons, List.pairwise_append]
    refine ⟨?_, ihc _ _, ihr _ _, ?_⟩
    · rintro ⟨q, m⟩ hm
      obtain hm | hm := List.mem_append.mp hm
      · obtain ⟨i, p, -, rfl⟩ := (mem_walkSiblings_iff _ _ _ _ _).mp hm
        rw [List.append_assoc]
        exact List.append_left_lt (List.cons_lt_cons_iff.mpr (.inr ⟨rfl, List.nil_lt_cons _ _⟩))
      · obtain ⟨i, p, -, rfl⟩ := (mem_walkSiblings_iff _ _ _ _ _).mp hm
        exact append_cons_lt (by omega) base _ _
    · rintro ⟨q, m⟩ hm ⟨q', m'⟩ hm'
      obtain ⟨i, p, -, rfl⟩ := (mem_walkSiblings_iff _ _ _ _ _).mp hm
      obtain ⟨j, p', -, rfl⟩ := (mem_walkSiblings_iff _ _ _ _ _).mp hm'
      rw [List.append_assoc]
      exact append_cons_lt (by omega) base _ _

theorem walk_pairwise (roots : Forest) (base : IndexPath) :
    (roots.walk base).Pairwise fun a b => a.1 < b.1 :=
  walkSiblings_pairwise roots base 0

theorem lt_of_prefix {a b : IndexPath} (h : a <+: b) (hne : a ≠ b) : a < b := by
  obtain ⟨c, rfl⟩ := h
  cases c with
  | nil => exact absurd (List.append_nil a).symm hne
  | cons i c =>
    have hlt : a ++ [] < a ++ i :: c := List.append_left_lt (List.nil_lt_cons _ _)
    rwa [List.append_nil] at hlt

/-- A node comes before all that stands below it. -/
theorem walk_parent_first {i j : Nat} {a b : IndexPath × Node} (ha : (roots.walk base)[i]? = some a)
    (hb : (roots.walk base)[j]? = some b) (hbelow : a.1 <+: b.1) (hne : a.1 ≠ b.1) : i < j := by
  have hlt := lt_of_prefix hbelow hne
  obtain ⟨hi, rfl⟩ := List.getElem?_eq_some_iff.mp ha
  obtain ⟨hj, rfl⟩ := List.getElem?_eq_some_iff.mp hb
  rcases Nat.lt_trichotomy i j with hij | rfl | hij
  · exact hij
  · exact absurd rfl hne
  · have hlater := List.pairwise_iff_getElem.mp (walk_pairwise roots base) j i hj hi hij
    exact absurd (List.lt_trans hlater hlt) (List.lt_irrefl _)

/-! ## Looking up -/

/-- The position that a path stands for, where a negative index counts from the end of the list that
it indexes. All indices are in range. -/
inductive Counts : List Node → IndexPath → List Nat → Prop where
  | nil {f : List Node} : Counts f [] []
  | cons {f : List Node} {i : Int} {k : Nat} {n : Node} {q : IndexPath} {p : List Nat}
      (hi : i = k ∨ i = k - f.length) (hk : f[k]? = some n) (hq : Counts n.children q p) :
      Counts f (i :: q) (k :: p)

theorem signedGet?_eq_some_iff {α : Type} {xs : List α} {i : Int} {a : α} :
    signedGet? xs i = some a ↔ ∃ k : Nat, (i = k ∨ i = k - xs.length) ∧ xs[k]? = some a := by
  unfold signedGet?
  dsimp only
  constructor
  · intro h
    by_cases hi : i < 0
    · rw [if_pos hi] at h
      split at h
      · cases h
      next hk => exact ⟨_, .inr (by omega), h⟩
    · rw [if_neg hi, if_neg hi] at h
      exact ⟨_, .inl (by omega), h⟩
  · rintro ⟨k, hi, hk⟩
    have hlt : k < xs.length := (List.getElem?_eq_some_iff.mp hk).1
    have hindex : (if i < 0 then i + xs.length else i) = k := by
      split <;> omega
    rw [hindex, if_neg (by omega), Int.toNat_natCast]
    exact hk

theorem nodeAt_cons_of_none {i : Int} (h : signedGet? roots i = none) (q : IndexPath) :
    roots.nodeAt (i :: q) = .error .outOfRange := by
  rw [nodeAt, h]

theorem nodeAt_singleton {i : Int} (h : signedGet? roots i = some n) :
    roots.nodeAt [i] = .ok n := by
  rw [nodeAt, h]
  rfl

theorem nodeAt_cons {i : Int} (h : signedGet? roots i = some n) (hq : q ≠ []) :
    roots.nodeAt (i :: q) = nodeAt n.children q := by
  have hmore : q.isEmpty = false := by simpa using hq
  rw [nodeAt, h]
  dsimp only
  rw [hmore]
  rfl

/-- Looking a path up finds the node at the position that it stands for. -/
theorem nodeAt_eq_ok_iff :
    roots.nodeAt q = .ok n ↔ ∃ p, Counts roots q p ∧ At roots p n := by
  induction q generalizing roots with
  | nil =>
    constructor
    · exact nofun
    · rintro ⟨p, hcounts, hn⟩
      cases hcounts
      exact absurd rfl hn.ne_nil
  | cons i q ih =>
    constructor
    · intro h
      cases hget : signedGet? roots i with
      | none =>
        rw [nodeAt_cons_of_none hget] at h
        cases h
      | some m =>
        obtain ⟨k, hi, hk⟩ := signedGet?_eq_some_iff.mp hget
        by_cases hq : q = []
        · subst hq
          rw [nodeAt_singleton hget] at h
          cases h
          exact ⟨[k], .cons hi hk .nil, .sibling hk⟩
        · rw [nodeAt_cons hget hq] at h
          obtain ⟨p, hcounts, hn⟩ := ih.mp h
          exact ⟨k :: p, .cons hi hk hcounts, .inside hk hn⟩
    · rintro ⟨p, hcounts, hn⟩
      cases hcounts with
      | @cons _ _ k m _ p hi hk hcounts =>
        have hget := signedGet?_eq_some_iff.mpr ⟨k, hi, hk⟩
        obtain ⟨m', hk', ⟨rfl, rfl⟩ | hn⟩ := at_cons_iff.mp hn
        all_goals cases hk.symm.trans hk'
        · cases hcounts
          exact nodeAt_singleton hget
        · have hq : q ≠ [] := by
            rintro rfl
            cases hcounts
            exact hn.ne_nil rfl
          rw [nodeAt_cons hget hq]
          exact ih.mpr ⟨p, hcounts, hn⟩

theorem Counts.exists_at (h : Counts f q p) (hq : q ≠ []) : ∃ n, At f p n := by
  induction h with
  | nil => exact absurd rfl hq
  | @cons f i k n q p hi hk hcounts ih =>
    by_cases hmore : q = []
    · subst hmore
      cases hcounts
      exact ⟨n, .sibling hk⟩
    · obtain ⟨m, hm⟩ := ih hmore
      exact ⟨m, .inside hk hm⟩

theorem nodeAt_eq_empty_iff : roots.nodeAt q = .error .empty ↔ q = [] := by
  induction q generalizing roots with
  | nil => exact ⟨fun _ => rfl, fun _ => rfl⟩
  | cons i q ih =>
    refine ⟨fun h => ?_, nofun⟩
    cases hget : signedGet? roots i with
    | none =>
      rw [nodeAt_cons_of_none hget] at h
      cases h
    | some n =>
      by_cases hq : q = []
      · subst hq
        rw [nodeAt_singleton hget] at h
        cases h
      · rw [nodeAt_cons hget hq] at h
        exact absurd (ih.mp h) hq

/-- A path that is not empty leads out of range just when it stands for no position. -/
theorem nodeAt_eq_outOfRange_iff :
    roots.nodeAt q = .error .outOfRange ↔ q ≠ [] ∧ ∀ p, ¬ Counts roots q p := by
  constructor
  · intro h
    have hq : q ≠ [] := fun hq => by cases h.symm.trans (nodeAt_eq_empty_iff.mpr hq)
    refine ⟨hq, fun p hcounts => ?_⟩
    obtain ⟨n, hn⟩ := hcounts.exists_at hq
    cases h.symm.trans (nodeAt_eq_ok_iff.mpr ⟨p, hcounts, hn⟩)
  · rintro ⟨hq, hnone⟩
    cases h : roots.nodeAt q with
    | ok n =>
      obtain ⟨p, hcounts, -⟩ := nodeAt_eq_ok_iff.mp h
      exact absurd hcounts (hnone p)
    | error fault =>
      cases fault with
      | empty => exact absurd (nodeAt_eq_empty_iff.mp h) hq
      | outOfRange => rfl

/-! ## Ancestors -/

theorem inits_tail_cons (i : Int) (q : IndexPath) :
    (i :: q).inits.tail = [i] :: q.inits.tail.map (i :: ·) := by
  cases q <;> simp

theorem ne_nil_of_mem_inits_tail : ∀ r ∈ q.inits.tail, r ≠ [] := by
  cases q with
  | nil => simp
  | cons i q => simp

/-- The ancestors on a path are the nodes that its prefixes look up, all but the empty one. -/
theorem ancestors_eq_mapM (roots : Forest) (q : IndexPath) :
    roots.ancestors q = q.inits.tail.mapM roots.nodeAt := by
  induction q generalizing roots with
  | nil => rfl
  | cons i q ih =>
    rw [inits_tail_cons]
    cases hget : signedGet? roots i with
    | none => rw [mapM_cons_of_error (nodeAt_cons_of_none hget []), Forest.ancestors, hget]
    | some n =>
      have hlater : ∀ r ∈ q.inits.tail, (roots.nodeAt ∘ (i :: ·)) r = nodeAt n.children r :=
        fun r hr => nodeAt_cons hget (ne_nil_of_mem_inits_tail r hr)
      rw [mapM_cons_of_ok (nodeAt_singleton hget), ancestors_cons_of_signedGet? hget, ih,
        List.mapM_map, mapM_congr hlater]

/-! ## Walking and looking up -/

/-- The walk lists each position once, after the path that it continues, in lexicographic order and
so each node before those below it, with the node there. Looking a path up gives the node that the
walk has for the position it stands for; it fails if there is none, and for the empty path. The
ancestors are what the prefixes look up, and fail just when one of these does. -/
theorem walk_and_lookUp (roots : Forest) :
    (∀ base q n, (q, n) ∈ roots.walk base ↔ ∃ p, At roots p n ∧ q = base ++ p.map Nat.cast) ∧
    (∀ base, (roots.walk base).Pairwise fun a b => a.1 < b.1) ∧
    (∀ (base : IndexPath) (i j : Nat) (a b : IndexPath × Node),
      (roots.walk base)[i]? = some a → (roots.walk base)[j]? = some b → a.1 <+: b.1 →
        a.1 ≠ b.1 → i < j) ∧
    (∀ q n, roots.nodeAt q = .ok n ↔
      ∃ p, Counts roots q p ∧ (p.map Nat.cast, n) ∈ roots.walk []) ∧
    (∀ q, roots.nodeAt q = .error .empty ↔ q = []) ∧
    (∀ q, roots.nodeAt q = .error .outOfRange ↔ q ≠ [] ∧ ∀ p, ¬ Counts roots q p) ∧
    (∀ q, roots.ancestors q = q.inits.tail.mapM roots.nodeAt) ∧
    ∀ q fault, roots.ancestors q = .error fault ↔
      FailsFirst roots.nodeAt q.inits.tail fault := by
  refine ⟨fun base q n => mem_walk_iff, walk_pairwise roots,
    fun base i j a b => walk_parent_first, fun q n => ?_, fun q => nodeAt_eq_empty_iff,
    fun q => nodeAt_eq_outOfRange_iff, ancestors_eq_mapM roots, fun q fault => ?_⟩
  · rw [nodeAt_eq_ok_iff]
    refine exists_congr fun p => and_congr_right fun _ => ?_
    rw [mem_walk_iff]
    constructor
    · intro hn
      exact ⟨p, hn, rfl⟩
    · rintro ⟨p', hn, hsame⟩
      have hcast : p = p' := List.map_injective_iff.mpr (fun _ _ => Int.ofNat_inj.mp) hsame
      exact hcast ▸ hn
  · rw [ancestors_eq_mapM, mapM_eq_error_iff]

end SpecSkeleton.Forest
