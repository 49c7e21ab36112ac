import SpecSkeleton.Outline.Nesting
import SpecSkeleton.Proofs.Node.Lineage

/-!
# The forest that indentation gives

`NestedBy ind f`: every child is indented more than its parent, and no node more than the sibling
before it, where `ind` gives the indentation of a row. `ofIndented_eq_iff` says that the forest
built from indented nodes is the only nested one that lists them in their order. The way there is
`grouped`, which gives each node the run of deeper ones after it: `grouped_step` says what one node
does to the spine, and `ofIndented_eq_grouped` follows by induction on the nodes.
-/

namespace SpecSkeleton

/-! ## Runs of deeper nodes -/

def isDeeper (indent : Nat) (e : Nat × Node) : Bool :=
  indent < e.1

section
variable {outer inner : Nat}

theorem takeWhile_isDeeper_takeWhile (h : outer ≤ inner) (es : List (Nat × Node)) :
    (es.takeWhile (isDeeper outer)).takeWhile (isDeeper inner) =
      es.takeWhile (isDeeper inner) := by
  induction es with
  | nil => rfl
  | cons e es ih =>
    by_cases hi : inner < e.1
    · have ho : outer < e.1 := by omega
      simp [isDeeper, hi, ho] at ih ⊢
      exact ih
    · by_cases ho : outer < e.1 <;> simp [isDeeper, hi, ho]

theorem dropWhile_isDeeper_takeWhile (h : outer ≤ inner) (es : List (Nat × Node)) :
    (es.takeWhile (isDeeper outer)).dropWhile (isDeeper inner) =
      (es.dropWhile (isDeeper inner)).takeWhile (isDeeper outer) := by
  induction es with
  | nil => rfl
  | cons e es ih =>
    by_cases hi : inner < e.1
    · have ho : outer < e.1 := by omega
      simp [isDeeper, hi, ho] at ih ⊢
      exact ih
    · by_cases ho : outer < e.1 <;> simp [isDeeper, hi, ho]

theorem dropWhile_isDeeper_dropWhile (h : outer ≤ inner) (es : List (Nat × Node)) :
    (es.dropWhile (isDeeper inner)).dropWhile (isDeeper outer) =
      es.dropWhile (isDeeper outer) := by
  induction es with
  | nil => rfl
  | cons e es ih =>
    by_cases hi : inner < e.1
    · have ho : outer < e.1 := by omega
      simp [isDeeper, hi, ho] at ih ⊢
      exact ih
    · simp [isDeeper, hi]

end

/-- The forest in which each node has the run of deeper nodes after it below itself. -/
def grouped : List (Nat × Node) → List Node
  | [] => []
  | (indent, leaf) :: rest =>
    { leaf with children := grouped (rest.takeWhile (isDeeper indent)) } ::
      grouped (rest.dropWhile (isDeeper indent))
termination_by es => es.length
decreasing_by
  · exact Nat.lt_succ_of_le (List.takeWhile_sublist _).length_le
  · exact Nat.lt_succ_of_le (List.dropWhile_sublist _).length_le

@[simp]
theorem grouped_nil : grouped [] = [] := by
  rw [grouped]

theorem grouped_cons (indent : Nat) (leaf : Node) (rest : List (Nat × Node)) :
    grouped ((indent, leaf) :: rest) =
      { leaf with children := grouped (rest.takeWhile (isDeeper indent)) } ::
        grouped (rest.dropWhile (isDeeper indent)) := by
  rw [grouped]

/-- A node, then deeper ones, then one that is not. -/
theorem grouped_cons_append {indent : Nat} {inside after : List (Nat × Node)} (leaf : Node)
    (hinside : ∀ e ∈ inside, indent < e.1) (hafter : ∀ e ∈ after.head?, e.1 ≤ indent) :
    grouped ((indent, leaf) :: (inside ++ after)) =
      { leaf with children := grouped inside } :: grouped after := by
  have hdeep : ∀ e ∈ inside, isDeeper indent e = true := fun e he => decide_eq_true (hinside e he)
  have hstop : after.takeWhile (isDeeper indent) = [] ∧
      after.dropWhile (isDeeper indent) = after := by
    cases after with
    | nil => simp
    | cons e after => simp [isDeeper, hafter e rfl]
  rw [grouped_cons, List.takeWhile_append_of_pos hdeep, List.dropWhile_append_of_pos hdeep,
    hstop.1, hstop.2, List.append_nil]

/-! ## The spine -/

/-- The forest that a spine, the closed children of its innermost node and the nodes still to come
lead to. -/
def finished : List SpineNode → List Node → List (Nat × Node) → Forest
  | [], closed, es => closed ++ grouped es
  | s :: spine, closed, es =>
    finished spine
      (Nesting.closeNode s (closed ++ grouped (es.takeWhile (isDeeper s.indent))))
      (es.dropWhile (isDeeper s.indent))

theorem finished_nil (spine : List SpineNode) (closed : List Node) :
    finished spine closed [] = (Nesting.mk spine closed).forest := by
  induction spine generalizing closed with
  | nil => simp [finished, Nesting.forest]
  | cons s spine ih =>
    simp only [finished, List.takeWhile_nil, List.dropWhile_nil, grouped_nil, List.append_nil, ih]
    rfl

/-- One node of those to come may be added first. -/
theorem grouped_step (spine : List SpineNode) (closed : List Node) (indent : Nat) (leaf : Node)
    (es : List (Nat × Node)) :
    let t := (Nesting.mk spine closed).add indent leaf
    finished t.spine t.closed es = finished spine closed ((indent, leaf) :: es) := by
  induction spine generalizing closed with
  | nil => simp [Nesting.add, Nesting.closeFrom, Nesting.closeNode, finished, grouped_cons]
  | cons s spine ih =>
    by_cases h : indent ≤ s.indent
    · -- The innermost node is closed, and the new one arrives at the spine without it.
      have hs : isDeeper s.indent (indent, leaf) = false := by simp [isDeeper, h]
      have ih := ih (Nesting.closeNode s closed)
      simp only [Nesting.add, Nesting.closeFrom, h, if_true] at ih ⊢
      rw [ih]
      simp [finished, hs]
    · have hlt : s.indent < indent := by omega
      have hs : isDeeper s.indent (indent, leaf) = true := by simp [isDeeper, hlt]
      simp only [Nesting.add, Nesting.closeFrom, h, if_false]
      simp only [finished, List.takeWhile_cons, List.dropWhile_cons, hs, if_true, grouped_cons,
        takeWhile_isDeeper_takeWhile (Nat.le_of_lt hlt),
        dropWhile_isDeeper_takeWhile (Nat.le_of_lt hlt),
        dropWhile_isDeeper_dropWhile (Nat.le_of_lt hlt), Nesting.closeNode, List.nil_append,
        List.append_assoc, List.singleton_append]

theorem foldl_add_forest (es : List (Nat × Node)) (t : Nesting) :
    (es.foldl (fun t e => t.add e.1 e.2) t).forest = finished t.spine t.closed es := by
  induction es generalizing t with
  | nil => exact (finished_nil t.spine t.closed).symm
  | cons e es ih =>
    rw [List.foldl_cons, ih]
    exact grouped_step t.spine t.closed e.1 e.2 es

/-- The spine and the runs of deeper nodes lead to the same forest. -/
theorem ofIndented_eq_grouped (es : List (Nat × Node)) : Forest.ofIndented es = grouped es := by
  have h := foldl_add_forest es Nesting.empty
  simpa [Forest.ofIndented, Nesting.empty, finished] using h

/-! ## Nested forests -/

mutual

/-- Every child is indented more than its parent. -/
def Node.NestedBy (ind : Nat → Nat) : Node → Prop
  | ⟨_, _, row, _, children⟩ =>
    (∀ c ∈ children, ind row < ind c.row) ∧ Forest.NestedBy ind children

/-- Every child is indented more than its parent, and no node more than the sibling before it. -/
def Forest.NestedBy (ind : Nat → Nat) : List Node → Prop
  | [] => True
  | n :: rest =>
    n.NestedBy ind ∧ (∀ m ∈ rest.head?, ind m.row ≤ ind n.row) ∧ Forest.NestedBy ind rest

end

namespace Forest

variable {ind : Nat → Nat}

theorem nestedBy_cons {n : Node} {rest : List Node} :
    NestedBy ind (n :: rest) ↔
      (∀ c ∈ n.children, ind n.row < ind c.row) ∧ NestedBy ind n.children ∧
        (∀ m ∈ rest.head?, ind m.row ≤ ind n.row) ∧ NestedBy ind rest := by
  cases n
  simp only [Forest.NestedBy, Node.NestedBy, and_assoc]

/-- No node is indented more than any sibling before it. -/
theorem NestedBy.later_le {n : Node} {rest : List Node} (h : NestedBy ind (n :: rest)) :
    ∀ m ∈ rest, ind m.row ≤ ind n.row := by
  induction rest generalizing n with
  | nil => simp
  | cons k rest ih =>
    obtain ⟨-, -, hk, hrest⟩ := nestedBy_cons.mp h
    have hk : ind k.row ≤ ind n.row := hk k rfl
    intro m hm
    rcases List.mem_cons.mp hm with rfl | hm
    · exact hk
    · have := ih hrest m hm
      omega

/-- What all roots are indented by at least, all nodes are. -/
theorem NestedBy.le_of_mem_nodes {f : List Node} (h : NestedBy ind f) (bound : Nat)
    (hroots : ∀ r ∈ f, bound ≤ ind r.row) : ∀ n ∈ Forest.nodes f, bound ≤ ind n.row := by
  induction f using siblings_induct with
  | nil => simp
  | cons k rest ihc ihr =>
    obtain ⟨hlt, hchildren, -, hrest⟩ := nestedBy_cons.mp h
    have hk := hroots k (List.mem_cons_self ..)
    intro n hn
    simp only [nodes_cons, List.mem_cons, List.mem_append] at hn
    rcases hn with rfl | hn | hn
    · exact hk
    · exact ihc hchildren (fun c hc => by have := hlt c hc; omega) n hn
    · exact ihr hrest (fun r hr => hroots r (List.mem_cons_of_mem _ hr)) n hn

/-- Only the order of the indentations matters. -/
theorem NestedBy.of_order {ind' : Nat → Nat} {f : List Node} (h : NestedBy ind f)
    (horder : ∀ a ∈ Forest.nodes f, ∀ b ∈ Forest.nodes f,
      ind a.row < ind b.row ↔ ind' a.row < ind' b.row) : NestedBy ind' f := by
  induction f using siblings_induct with
  | nil => trivial
  | cons n rest ihc ihr =>
    obtain ⟨hlt, hchildren, hnext, hrest⟩ := nestedBy_cons.mp h
    simp only [nodes_cons, List.mem_cons, List.mem_append] at horder
    refine nestedBy_cons.mpr ⟨?_, ?_, ?_, ?_⟩
    · intro c hc
      exact (horder n (.inl rfl) c (.inr (.inl (mem_nodes_of_mem hc)))).mp (hlt c hc)
    · exact ihc hchildren fun a ha b hb => horder a (.inr (.inl ha)) b (.inr (.inl hb))
    · intro m hm
      have hmrest : m ∈ rest := List.mem_of_mem_head? hm
      have hle := hnext m hm
      have hiff := horder n (.inl rfl) m (.inr (.inr (mem_nodes_of_mem hmrest)))
      omega
    · exact ihr hrest fun a ha b hb => horder a (.inr (.inr ha)) b (.inr (.inr hb))

theorem NestedBy.congr {ind' : Nat → Nat} {f : List Node} (h : NestedBy ind f)
    (hsame : ∀ n ∈ Forest.nodes f, ind n.row = ind' n.row) : NestedBy ind' f := by
  apply h.of_order
  intro a ha b hb
  rw [hsame a ha, hsame b hb]

/-- All nodes with their indentation and without their children, in source order. -/
def entries (ind : Nat → Nat) (f : List Node) : List (Nat × Node) :=
  (Forest.nodes f).map fun n => (ind n.row, n.leaf)

@[simp]
theorem entries_nil : entries ind [] = [] := rfl

theorem entries_cons (n : Node) (rest : List Node) :
    entries ind (n :: rest) =
      (ind n.row, n.leaf) :: (entries ind n.children ++ entries ind rest) := by
  simp [entries, nodes_cons]

/-- A nested forest is the one that its entries are grouped to. -/
theorem NestedBy.grouped_entries {f : List Node} (h : NestedBy ind f) :
    grouped (entries ind f) = f := by
  induction f using siblings_induct with
  | nil => simp
  | cons n rest ihc ihr =>
    obtain ⟨hlt, hchildren, hnext, hrest⟩ := nestedBy_cons.mp h
    have hinside : ∀ e ∈ entries ind n.children, ind n.row < e.1 := by
      intro e he
      obtain ⟨m, hm, rfl⟩ := List.mem_map.mp he
      exact hchildren.le_of_mem_nodes (ind n.row + 1) hlt m hm
    have hafter : ∀ e ∈ (entries ind rest).head?, e.1 ≤ ind n.row := by
      cases rest with
      | nil => simp
      | cons m rest =>
        have hm := hnext m rfl
        simpa [entries_cons] using hm
    rw [entries_cons, grouped_cons_append n.leaf hinside hafter, ihc hchildren, ihr hrest]
    cases n
    rfl

/-! ## Grouping nests -/

theorem grouped_nodes (es : List (Nat × Node)) :
    (Forest.nodes (grouped es)).map Node.leaf = es.map fun e => e.2.leaf := by
  fun_induction grouped es with
  | case1 => rfl
  | case2 indent leaf rest ihc ihr =>
    simp only [nodes_cons, List.map_cons, List.map_append, ihc, ihr]
    rw [← List.map_append, List.takeWhile_append_dropWhile]
    rfl

theorem row_mem_of_mem_grouped {es : List (Nat × Node)} {n : Node} (h : n ∈ grouped es) :
    ∃ e ∈ es, e.2.row = n.row := by
  have hn : n.leaf ∈ (Forest.nodes (grouped es)).map Node.leaf :=
    List.mem_map_of_mem (mem_nodes_of_mem h)
  rw [grouped_nodes] at hn
  obtain ⟨e, he, hleaf⟩ := List.mem_map.mp hn
  have hrow : e.2.leaf.row = n.leaf.row := congrArg Node.row hleaf
  exact ⟨e, he, hrow⟩

theorem grouped_head?_row (es : List (Nat × Node)) :
    (grouped es).head?.map Node.row = es.head?.map fun e => e.2.row := by
  cases es with
  | nil => simp
  | cons e es =>
    rw [grouped_cons e.1 e.2]
    rfl

/-- The entries carry the indentation of their rows. -/
def Carry (ind : Nat → Nat) (es : List (Nat × Node)) : Prop :=
  ∀ e ∈ es, e.1 = ind e.2.row

theorem nestedBy_grouped {es : List (Nat × Node)} (h : Carry ind es) :
    NestedBy ind (grouped es) := by
  fun_induction grouped es with
  | case1 => trivial
  | case2 indent leaf rest ihc ihr =>
    have hindent : indent = ind leaf.row := h _ (List.mem_cons_self ..)
    have hrest : Carry ind rest := fun e he => h e (List.mem_cons_of_mem _ he)
    refine nestedBy_cons.mpr
      ⟨fun c hc => ?_, ihc fun e he => ?_, fun m hm => ?_, ihr fun e he => ?_⟩
    · obtain ⟨e, he, hrow⟩ := row_mem_of_mem_grouped hc
      have hdeep : isDeeper indent e = true := List.all_eq_true.mp List.all_takeWhile e he
      have he := hrest e ((List.takeWhile_sublist _).subset he)
      simp only [isDeeper, decide_eq_true_eq] at hdeep
      show ind leaf.row < ind c.row
      rw [← hrow]
      omega
    · exact hrest e ((List.takeWhile_sublist _).subset he)
    · have hhead := grouped_head?_row (rest.dropWhile (isDeeper indent))
      have hstop := List.head?_dropWhile_not (isDeeper indent) rest
      rw [hm] at hhead
      cases he : (rest.dropWhile (isDeeper indent)).head? with
      | none => rw [he] at hhead; cases hhead
      | some e =>
        rw [he] at hhead hstop
        have hrow : m.row = e.2.row := Option.some.inj hhead
        have he := hrest e ((List.dropWhile_sublist _).subset (List.mem_of_mem_head? he))
        simp only [isDeeper, decide_eq_false_iff_not] at hstop
        show ind m.row ≤ ind leaf.row
        rw [hrow]
        omega
    · exact hrest e ((List.dropWhile_sublist _).subset he)

theorem entries_grouped {es : List (Nat × Node)} (h : Carry ind es)
    (hleaf : ∀ e ∈ es, e.2.leaf = e.2) : entries ind (grouped es) = es := by
  have heq : ∀ e ∈ es, (ind e.2.row, e.2.leaf) = id e := by
    intro e he
    rw [← h e he, hleaf e he]
    rfl
  calc entries ind (grouped es)
      = ((Forest.nodes (grouped es)).map Node.leaf).map (fun n => (ind n.row, n)) := by
        simp [entries]
    _ = es.map (fun e => (ind e.2.row, e.2.leaf)) := by
        rw [grouped_nodes, List.map_map]
        rfl
    _ = es := by rw [List.map_congr_left heq, List.map_id]

/-- The forest built from indented nodes is the one nested forest that lists them. -/
theorem ofIndented_eq_iff {es : List (Nat × Node)} {f : Forest} (h : Carry ind es)
    (hleaf : ∀ e ∈ es, e.2.leaf = e.2) :
    Forest.ofIndented es = f ↔ NestedBy ind f ∧ entries ind f = es := by
  rw [ofIndented_eq_grouped]
  constructor
  · rintro rfl
    exact ⟨nestedBy_grouped h, entries_grouped h hleaf⟩
  · rintro ⟨hf, rfl⟩
    exact hf.grouped_entries

end Forest

end SpecSkeleton
