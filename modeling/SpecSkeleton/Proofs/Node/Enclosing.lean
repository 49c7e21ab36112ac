import SpecSkeleton.Node.Span
import SpecSkeleton.Proofs.Node.Lineage

/-!
# The nodes that enclose a line

If the lines of a forest ascend in source order, then the search from the roots for what encloses a
line ends at the last node at or before the line: `enclosingWithin_eq_lastReached`. Hence it finds
the ancestors of that node (`ancestors_of_last`), and nothing just when there is no such node.
-/

namespace SpecSkeleton.Forest

variable {line : Int}

/-! ## The last node reached -/

/-- Whether the node of a lineage stands at or before a line. -/
def reached (line : Int) (c : List Node) : Bool :=
  c.getLast?.any fun n => n.line ≤ line

/-- The lineage of the last node in source order that stands at or before a line. -/
def lastReached (line : Int) (f : List Node) : Option (List Node) :=
  ((lineages f).filter (reached line)).getLast?

theorem lastReached_nil : lastReached line [] = none := rfl

theorem filter_reached_below (n : Node) (f : List Node) :
    ((lineages f).map (n :: ·)).filter (reached line) =
      ((lineages f).filter (reached line)).map (n :: ·) := by
  have h : ∀ c ∈ lineages f, (reached line ∘ (n :: ·)) c = reached line c := by
    intro c hc
    simp only [Function.comp_def, reached,
      getLast?_cons_of_ne_nil (ne_nil_of_mem_lineages c hc)]
  rw [List.filter_map, List.filter_congr h]

/-- The last node among siblings is one of the later siblings, or else one below the first, or else
the first itself. -/
theorem lastReached_cons (n : Node) (rest : List Node) :
    lastReached line (n :: rest) =
      (lastReached line rest).or
        (((lastReached line n.children).map (n :: ·)).or
          (if n.line ≤ line then some [n] else none)) := by
  have hn : (([n] : List Node) :: []).filter (reached line) =
      if (n.line : Int) ≤ line then [[n]] else [] := by
    by_cases h : (n.line : Int) ≤ line <;> simp [reached, h]
  have hcons : lineages (n :: rest) =
      [[n]] ++ ((lineages n.children).map (n :: ·) ++ lineages rest) := lineages_cons n rest
  rw [lastReached, hcons, List.filter_append, List.filter_append, hn, filter_reached_below,
    List.getLast?_append, List.getLast?_append, List.getLast?_map]
  have hlast : (if (n.line : Int) ≤ line then [[n]] else []).getLast? =
      if (n.line : Int) ≤ line then some [n] else none := by
    by_cases h : (n.line : Int) ≤ line <;> simp [h]
  rw [hlast, Option.or_assoc]
  rfl

theorem lastReached_eq_none_iff (f : List Node) :
    lastReached line f = none ↔ ∀ n ∈ Forest.nodes f, line < n.line := by
  induction f using siblings_induct with
  | nil => simp [lastReached_nil]
  | cons n rest ihc ihr =>
    rw [lastReached_cons, Option.or_eq_none_iff, Option.or_eq_none_iff, Option.map_eq_none_iff, ihc,
      ihr, nodes_cons, List.forall_mem_cons, List.forall_mem_append]
    by_cases h : (n.line : Int) ≤ line
    · simp [h, Int.not_lt.mpr h]
    · simp [h, Int.not_le.mp h, and_comm]

/-! ## The search -/

theorem enclosingWithin_cons (stop : Option Nat) (n : Node) (rest : List Node) :
    enclosingWithin line stop (n :: rest) =
      if n.line ≤ line ∧ isBelow line (endOf stop rest) then
        n :: enclosingWithin line (endOf stop rest) n.children
      else enclosingWithin line stop rest := by
  cases n
  rw [enclosingWithin]

/-- Siblings whose parent ends after the line go on past it just when none of them is reached. -/
theorem isBelow_endOf_iff {stop : Option Nat} (hstop : isBelow line stop = true) {rest : List Node}
    (hsorted : (Forest.nodes rest).Pairwise fun a b => a.line < b.line) :
    isBelow line (endOf stop rest) = true ↔ lastReached line rest = none := by
  rw [lastReached_eq_none_iff]
  cases rest with
  | nil => simpa [endOf] using hstop
  | cons next rest =>
    rw [nodes_cons, List.pairwise_cons] at hsorted
    simp only [endOf, isBelow, decide_eq_true_eq, nodes_cons, List.forall_mem_cons]
    constructor
    · intro hnext
      refine ⟨hnext, fun m hm => ?_⟩
      have := hsorted.1 m hm
      omega
    · rintro ⟨hnext, -⟩
      exact hnext

/-- Going down from siblings whose parent ends after the line, the search ends at the last node at
or before the line. -/
theorem enclosingWithin_eq_lastReached (f : List Node) : ∀ stop : Option Nat,
    isBelow line stop = true → (Forest.nodes f).Pairwise (fun a b => a.line < b.line) →
      enclosingWithin line stop f = (lastReached line f).getD [] := by
  induction f using siblings_induct with
  | nil =>
    intro stop _ _
    rw [enclosingWithin]
    rfl
  | cons n rest ihc ihr =>
    intro stop hstop hsorted
    rw [nodes_cons, List.pairwise_cons] at hsorted
    obtain ⟨hfirst, hlater⟩ := hsorted
    obtain ⟨hchildren, hrest, -⟩ := List.pairwise_append.mp hlater
    have hend := isBelow_endOf_iff hstop hrest
    rw [enclosingWithin_cons, lastReached_cons]
    by_cases hn : (n.line : Int) ≤ line
    · cases hlast : lastReached line rest with
      | none =>
        have hbelow := hend.mpr hlast
        rw [if_pos ⟨hn, hbelow⟩, if_pos hn, ihc _ hbelow hchildren]
        cases lastReached line n.children <;> rfl
      | some c =>
        have hnot : ¬ isBelow line (endOf stop rest) = true := by
          rw [hend, hlast]
          simp
        rw [if_neg fun h => hnot h.2, ihr stop hstop hrest, hlast]
        rfl
    · -- Everything below `n` stands after it, and so after the line.
      have hnone : lastReached line n.children = none := by
        rw [lastReached_eq_none_iff]
        intro m hm
        have := hfirst m (List.mem_append_left _ hm)
        omega
      rw [if_neg fun h => hn h.1, if_neg hn, hnone, ihr stop hstop hrest]
      cases lastReached line rest <;> rfl

/-! ## The last node before a line -/

section
variable {f : Forest}

theorem enclosing_eq_lastReached (h : f.nodes.Pairwise fun a b => a.line < b.line) (line : Int) :
    f.enclosing line = (lastReached line f).getD [] :=
  enclosingWithin_eq_lastReached f none rfl h

theorem enclosing_eq_nil_iff (h : f.nodes.Pairwise fun a b => a.line < b.line) :
    f.enclosing line = [] ↔ ∀ n ∈ f.nodes, line < n.line := by
  rw [enclosing_eq_lastReached h, ← lastReached_eq_none_iff]
  cases hlast : lastReached line f with
  | none => simp
  | some c =>
    have hc : c ∈ lineages f := (List.mem_filter.mp (List.mem_of_getLast? hlast)).1
    simp [ne_nil_of_mem_lineages c hc]

/-- What encloses a line is the lineage of the last node at or before it. -/
theorem enclosing_of_getElem? (h : f.nodes.Pairwise fun a b => a.line < b.line) {i : Nat} {n : Node}
    {c : List Node} (hc : (lineages f)[i]? = some c) (hn : f.nodes[i]? = some n)
    (hle : n.line ≤ line) (hlater : ∀ m ∈ f.nodes.drop (i + 1), line < m.line) :
    f.enclosing line = c := by
  have hlast := lineages_getLast? f
  have hcn : c.getLast? = some n := by
    have hi := congrArg (·[i]?) hlast
    simpa [hc, hn] using hi
  have hsplit : lineages f = (lineages f).take i ++ c :: (lineages f).drop (i + 1) := by
    obtain ⟨hi, rfl⟩ := List.getElem?_eq_some_iff.mp hc
    rw [← List.drop_eq_getElem_cons hi, List.take_append_drop]
  have hreached : reached line c = true := by simp [reached, hcn, hle]
  have hnone : ((lineages f).drop (i + 1)).filter (reached line) = [] := by
    rw [List.filter_eq_nil_iff]
    intro d hd
    have hmem : d.getLast? ∈ ((lineages f).drop (i + 1)).map List.getLast? :=
      List.mem_map_of_mem hd
    rw [List.map_drop, hlast, ← List.map_drop] at hmem
    obtain ⟨m, hm, hdm⟩ := List.mem_map.mp hmem
    have := hlater m hm
    simp [reached, ← hdm, this]
  rw [enclosing_eq_lastReached h, lastReached, hsplit, List.filter_append,
    List.filter_cons_of_pos hreached, hnone, List.getLast?_append]
  rfl

/-- The nodes that enclose a line are the ancestors of the last node of the walk at or before it. -/
theorem ancestors_of_last (h : f.nodes.Pairwise fun a b => a.line < b.line) {p : IndexPath}
    {n : Node} (hlast : (f.walk []).reverse.find? (fun e => e.2.line ≤ line) = some (p, n)) :
    f.ancestors p = .ok (f.enclosing line) := by
  obtain ⟨hle, later, before, heq, hlater⟩ := List.find?_eq_some_iff_append.mp hlast
  have hwalk : f.walk [] = before.reverse ++ (p, n) :: later.reverse := by
    rw [← List.reverse_reverse (f.walk []), heq]
    simp
  have hp : (f.walk [])[before.length]? = some (p, n) := by
    rw [hwalk, List.getElem?_append_right (by simp)]
    simp
  have hnodes : f.nodes = before.reverse.map Prod.snd ++ n :: later.reverse.map Prod.snd := by
    rw [← walk_snd f [], hwalk, List.map_append, List.map_cons]
  have hn : f.nodes[before.length]? = some n := by
    rw [hnodes, List.getElem?_append_right (by simp)]
    simp
  have hdrop : f.nodes.drop (before.length + 1) = later.reverse.map Prod.snd := by
    rw [hnodes, List.drop_append]
    simp
  obtain ⟨c, hc, hchain, -, -⟩ := lineage_of_walk hp
  rw [hchain, enclosing_of_getElem? h hc hn (by simpa using hle)]
  intro m hm
  rw [hdrop] at hm
  obtain ⟨e, he, rfl⟩ := List.mem_map.mp hm
  simpa using hlater e (List.mem_reverse.mp he)

end

end SpecSkeleton.Forest
