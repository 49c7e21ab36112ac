import SpecSkeleton.Proofs.Node.LastBranch
import SpecSkeleton.Proofs.Outline.Openings

/-!
# The stack of a scan

A text is scanned row by row. Between two rows the nodes of the spine are a stack: they can still
get children, and a row that opens an element takes those from the top that are indented as much as
its own node or more, and puts that node on top. `Stacked` is what holds of the stack once some nodes
have been added: it ends at the newest one, and its indentations ascend. `stacked_add` says that one
more node keeps this, `grows_add` that the forest grows only at its last branch. That this branch is
the stack, and what both mean for all rows of a text, is said by `stack_is_last_branch`.
-/

namespace SpecSkeleton

namespace Nesting

/-- The nodes that can still get children, outermost first, each with its indentation. -/
def stack (t : Nesting) : List (Nat × Node) :=
  t.spine.reverse.map fun s => (s.indent, s.leaf)

/-! ## The forest of a spine -/

theorem forest_cons (s : SpineNode) (spine : List SpineNode) (closed : List Node) :
    (Nesting.mk (s :: spine) closed).forest = (Nesting.mk spine (closeNode s closed)).forest := rfl

/-- The last branch goes down the spine, and on below the closed children of its innermost node. -/
theorem lastBranch_forest (spine : List SpineNode) (closed : List Node) :
    (Forest.lastBranch (Nesting.mk spine closed).forest).map Node.leaf =
      (spine.reverse.map fun s => s.leaf.leaf) ++ (Forest.lastBranch closed).map Node.leaf := by
  induction spine generalizing closed with
  | nil => rfl
  | cons s spine ih =>
    rw [forest_cons, ih, closeNode, Forest.lastBranch_concat, List.reverse_cons, List.map_append,
      List.append_assoc]
    rfl

/-- What is added behind the closed children of the innermost node is added at the last branch. -/
theorem grows_forest {closed added : List Node} (spine : List SpineNode)
    (h : Forest.Grows closed added) :
    Forest.Grows (Nesting.mk spine closed).forest (Nesting.mk spine added).forest := by
  induction spine generalizing closed added with
  | nil => exact h
  | cons s spine ih => exact ih (Forest.Grows.concat s.older h)

/-! ## Adding a node -/

/-- Closing nodes takes them from the spine and changes nothing in the forest. -/
theorem forest_closeFrom (indent : Nat) (spine : List SpineNode) (closed : List Node) :
    (closeFrom indent spine closed).forest = (Nesting.mk spine closed).forest := by
  fun_induction closeFrom indent spine closed with
  | case1 => rfl
  | case2 closed s spine _ ih => rw [ih, forest_cons]
  | case3 => rfl

theorem spine_closeFrom (indent : Nat) (spine : List SpineNode) (closed : List Node) :
    (closeFrom indent spine closed).spine = spine.dropWhile fun s => indent ≤ s.indent := by
  fun_induction closeFrom indent spine closed with
  | case1 => rfl
  | case2 closed s spine hclose ih => simpa [hclose] using ih
  | case3 closed s spine hopen => simp [hopen]

/-- A node goes behind the children of the innermost node that is left open, or behind the roots. -/
theorem grows_add (t : Nesting) (indent : Nat) (leaf : Node) :
    Forest.Grows t.forest (t.add indent leaf).forest := by
  have hclosed : (closeFrom indent t.spine t.closed).forest = t.forest :=
    forest_closeFrom indent t.spine t.closed
  rw [← hclosed]
  exact grows_forest _ (Forest.Grows.append _ [{ leaf with children := [] }])

/-- Where indentations descend, the first one below a bound is followed by such ones only. -/
theorem dropWhile_eq_filter {indent : Nat} {spine : List SpineNode}
    (h : spine.Pairwise fun a b => b.indent < a.indent) :
    (spine.dropWhile fun s => indent ≤ s.indent) = spine.filter fun s => s.indent < indent := by
  induction h with
  | nil => rfl
  | @cons s spine hlower _ ih =>
    by_cases hle : indent ≤ s.indent
    · have hnot : ¬ s.indent < indent := Nat.not_lt.mpr hle
      simp [hle, hnot, ih]
    · have hlt : s.indent < indent := Nat.lt_of_not_le hle
      have hall : ∀ r ∈ spine, decide (r.indent < indent) = true := fun r hr =>
        decide_eq_true (Nat.lt_trans (hlower r hr) hlt)
      simp [hle, hlt, List.filter_eq_self.mpr hall]

theorem stack_add {t : Nesting} (h : t.stack.Pairwise fun a b => a.1 < b.1) (indent : Nat)
    (leaf : Node) :
    (t.add indent leaf).stack = t.stack.filter (·.1 < indent) ++ [(indent, leaf)] := by
  have hspine : t.spine.Pairwise fun a b => b.indent < a.indent := by
    rw [stack, List.pairwise_map, List.pairwise_reverse] at h
    exact h
  rw [stack, stack, add, spine_closeFrom, dropWhile_eq_filter hspine, List.reverse_cons,
    List.map_append, List.filter_map, ← List.filter_reverse]
  rfl

/-! ## All nodes of a scan -/

/-- The nodes in `es` have been added, each with its indentation. -/
structure Stacked (es : List (Nat × Node)) (t : Nesting) : Prop where
  /-- The innermost node has no children yet. -/
  settled : t.closed = []
  newest : t.stack.getLast? = es.getLast?
  listed : t.stack.Sublist es
  ascending : t.stack.Pairwise fun a b => a.1 < b.1

theorem stacked_add {es : List (Nat × Node)} {t : Nesting} (h : Stacked es t) (indent : Nat)
    (leaf : Node) : Stacked (es ++ [(indent, leaf)]) (t.add indent leaf) := by
  have hstack := stack_add h.ascending indent leaf
  constructor
  case settled => rfl
  case newest => rw [hstack, List.getLast?_concat, List.getLast?_concat]
  case listed =>
    rw [hstack]
    exact (List.filter_sublist.trans h.listed).append (List.Sublist.refl _)
  case ascending =>
    rw [hstack, List.pairwise_append]
    refine ⟨h.ascending.filter _, List.pairwise_singleton .., ?_⟩
    intro a ha b hb
    rw [List.mem_singleton.mp hb]
    simpa using (List.mem_filter.mp ha).2

theorem Stacked.foldl {es : List (Nat × Node)} {t : Nesting} (h : Stacked es t)
    (added : List (Nat × Node)) :
    Stacked (es ++ added) (added.foldl (fun t e => t.add e.1 e.2) t) := by
  induction added generalizing es t with
  | nil => rwa [List.append_nil]
  | cons e added ih =>
    rw [List.append_cons]
    exact ih (stacked_add h e.1 e.2)

theorem stacked_empty : Stacked [] Nesting.empty :=
  ⟨rfl, rfl, List.Sublist.refl [], .nil⟩

/-- The stack is the last branch of the forest. -/
theorem Stacked.branch {es : List (Nat × Node)} {t : Nesting} (h : Stacked es t)
    (hleaf : ∀ e ∈ es, e.2.leaf = e.2) :
    t.stack.map Prod.snd = (Forest.lastBranch t.forest).map Node.leaf := by
  have hspine := lastBranch_forest t.spine t.closed
  rw [h.settled, Forest.lastBranch_nil, List.map_nil, List.append_nil, ← h.settled] at hspine
  calc t.stack.map Prod.snd
      = t.stack.map (fun e => e.2.leaf) :=
        List.map_congr_left fun e he => (hleaf e (h.listed.subset he)).symm
    _ = t.spine.reverse.map (fun s => s.leaf.leaf) := by rw [stack, List.map_map]; rfl
    _ = (Forest.lastBranch t.forest).map Node.leaf := hspine.symm

/-! ## Row by row -/

/-- If a row opens an element, the node of that is added. -/
def addRow (file : String) (t : Nesting) (row : List Char × Nat) : Nesting :=
  match Opening.ofRow? row.1 row.2 with
  | none => t
  | some o => t.add o.indent (o.leaf file)

/-- What the first `k` rows of a text lead to. -/
def afterRows (text file : String) (k : Nat) : Nesting :=
  ((Text.rows text.toList).zipIdx.take k).foldl (addRow file) Nesting.empty

end Nesting

/-- The openings among the first `k` rows of a text. -/
def openingsBefore (text : String) (k : Nat) : List Opening :=
  ((Text.rows text.toList).zipIdx.take k).filterMap fun (row, index) => Opening.ofRow? row index

theorem openingsBefore_all (text : String) :
    openingsBefore text (Text.rows text.toList).length = openings text := by
  rw [openingsBefore, openings, List.take_of_length_le (Nat.le_of_eq List.length_zipIdx)]

namespace Nesting

variable {text file : String}

theorem afterRows_eq (text file : String) (k : Nat) :
    afterRows text file k =
      ((openingsBefore text k).map (Opening.entry file)).foldl (fun t e => t.add e.1 e.2)
        Nesting.empty := by
  rw [afterRows, openingsBefore, List.foldl_map, List.foldl_filterMap]
  congr
  funext t ⟨row, index⟩
  simp only [addRow]
  cases Opening.ofRow? row index <;> rfl

theorem forest_afterRows (text file : String) (k : Nat) :
    (afterRows text file k).forest =
      Forest.ofIndented ((openingsBefore text k).map (Opening.entry file)) := by
  rw [afterRows_eq]
  rfl

theorem afterRows_succ (text file : String) (k : Nat) :
    afterRows text file (k + 1) =
      match (Text.rows text.toList)[k]? with
      | none => afterRows text file k
      | some row => addRow file (afterRows text file k) (row, k) := by
  rw [afterRows, List.take_add_one, List.foldl_append, List.getElem?_zipIdx, Nat.zero_add]
  cases (Text.rows text.toList)[k]? <;> rfl

theorem afterRows_opening {o : Opening} (ho : o ∈ openings text) :
    afterRows text file (o.row + 1) =
      (afterRows text file o.row).add o.indent (o.leaf file) := by
  obtain ⟨row, hrow, hopens⟩ := mem_openings.mp ho
  rw [afterRows_succ, hrow]
  simp only [addRow, hopens]

theorem afterRows_other {k : Nat} (hk : ∀ o ∈ openings text, o.row ≠ k) :
    afterRows text file (k + 1) = afterRows text file k := by
  rw [afterRows_succ]
  cases hrow : (Text.rows text.toList)[k]? with
  | none => rfl
  | some row =>
    cases hopens : Opening.ofRow? row k with
    | none => simp only [addRow, hopens]
    | some o =>
      have hindex := (Opening.ofRow?_eq_some hopens).1
      exact absurd hindex (hk o (mem_openings.mpr ⟨row, hindex ▸ hrow, hindex ▸ hopens⟩))

theorem grows_addRow (t : Nesting) (row : List Char × Nat) :
    Forest.Grows t.forest (addRow file t row).forest := by
  unfold addRow
  split
  · exact Forest.Grows.refl t.forest
  · exact grows_add t _ _

/-- Between any two stages of a scan the forest grows. -/
theorem grows_afterRows (text file : String) (k d : Nat) :
    Forest.Grows (afterRows text file k).forest (afterRows text file (k + d)).forest := by
  induction d with
  | zero => exact Forest.Grows.refl _
  | succ d ih =>
    refine ih.trans ?_
    rw [← Nat.add_assoc, afterRows_succ]
    split
    · exact Forest.Grows.refl _
    · exact grows_addRow _ _

/-- Stack and forest, when the rows that open the elements `os` have been scanned. -/
structure OnLastBranch (file : String) (os : List Opening) (t : Nesting) : Prop where
  empty_iff : t.stack = [] ↔ os = []
  newest : t.stack.getLast? = os.getLast?.map (Opening.entry file)
  listed : t.stack.Sublist (os.map (Opening.entry file))
  ascending : t.stack.Pairwise fun a b => a.1 < b.1
  branch : t.stack.map Prod.snd = (Forest.lastBranch t.forest).map Node.leaf
  nodes : t.forest.nodes.map Node.leaf = os.map (Opening.leaf file)

theorem onLastBranch_afterRows (text file : String) (k : Nat) :
    (afterRows text file k).OnLastBranch file (openingsBefore text k) := by
  have hstacked := afterRows_eq text file k ▸
    stacked_empty.foldl ((openingsBefore text k).map (Opening.entry file))
  rw [List.nil_append] at hstacked
  have hnewest := hstacked.newest
  rw [List.getLast?_map] at hnewest
  constructor
  case empty_iff =>
    rw [← List.getLast?_eq_none_iff, hnewest, Option.map_eq_none_iff, List.getLast?_eq_none_iff]
  case newest => exact hnewest
  case listed => exact hstacked.listed
  case ascending => exact hstacked.ascending
  case branch => exact hstacked.branch (leaf_entries _ file)
  case nodes =>
    rw [forest_afterRows, ofIndented_eq_grouped, Forest.grouped_nodes, List.map_map]
    rfl

/-- A text is scanned row by row, and its forest is what all its rows lead to. After any number of
them the stack is the last branch of the forest; it is empty just if no row so far opens an element,
and else ends at the newest node, with ascending indentations. A row that opens an element takes off
the stack what is not indented less and puts its node there; another row changes nothing. The forest
of later rows extends that of the earlier ones. -/
theorem stack_is_last_branch (text file : String) :
    let after := afterRows text file
    parse .standard text file = .ok (after (Text.rows text.toList).length).forest ∧
      (∀ k, (after k).OnLastBranch file (openingsBefore text k)) ∧
      (∀ o ∈ openings text, (after (o.row + 1)).stack =
        (after o.row).stack.filter (·.1 < o.indent) ++ [o.entry file]) ∧
      (∀ k, (∀ o ∈ openings text, o.row ≠ k) → after (k + 1) = after k) ∧
      ∀ k d, Forest.Extends (after k).forest (after (k + d)).forest := by
  intro after
  have hbranch := onLastBranch_afterRows text file
  refine ⟨?_, hbranch, fun o ho => ?_, fun k hk => afterRows_other hk, fun k d => ?_⟩
  · rw [parse_standard, ← openingsBefore_all, ← forest_afterRows]
  · show (afterRows text file (o.row + 1)).stack = _
    rw [afterRows_opening ho]
    exact stack_add (hbranch o.row).ascending o.indent (o.leaf file)
  · exact (grows_afterRows text file k d).extends

/-- A second example takes the first off the stack, for good, and the row after it opens nothing. -/
theorem stack_is_last_branch_second :
    let text := "describe 'a' do\n  it 'b'\n  it 'c' do\n  end\ncontext 'd'"
    let after := afterRows text "a_spec.rb"
    let o : Opening := ⟨2, .it, 2, ['\'', 'c', '\'', ' ', 'd', 'o']⟩
    o ∈ openings text ∧
      (after 3).stack = (after 2).stack.filter (·.1 < 2) ++ [o.entry "a_spec.rb"] ∧
      (∀ q ∈ openings text, q.row ≠ 3) ∧ after 4 = after 3 ∧
      ∃ e ∈ (after 3).forest.walk [], e.1 = [0, 0] ∧
        e.2 ∉ Forest.lastBranch (after 3).forest ∧ e ∈ (after 5).forest.walk [] := by
  intro text after o
  have ho : o ∈ openings text := by decide +kernel
  have hblock : ∀ q ∈ openings text, q.row ≠ 3 := by decide +kernel
  obtain ⟨-, -, hopening, hother, hextends⟩ := stack_is_last_branch text "a_spec.rb"
  have hplace : (([0, 0], 1) : IndexPath × Nat) ∈
      ((after 3).forest.walk []).map fun e => (e.1, e.2.row) := by decide +kernel
  obtain ⟨e, he, hat⟩ := List.mem_map.mp hplace
  have hrow : e.2.row = 1 := congrArg Prod.snd hat
  have hrows : 1 ∉ (Forest.lastBranch (after 3).forest).map Node.row := by decide +kernel
  have hoff : e.2 ∉ Forest.lastBranch (after 3).forest := fun hmem =>
    hrows (hrow ▸ List.mem_map_of_mem hmem)
  exact ⟨ho, hopening o ho, hblock, hother 3 hblock, e, he, congrArg Prod.fst hat, hoff,
    (hextends 3 2).final e he hoff⟩

end Nesting

end SpecSkeleton
