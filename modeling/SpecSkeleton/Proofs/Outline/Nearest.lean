import SpecSkeleton.Proofs.Outline.Nested

/-!
# Nearest less indented nodes

`shallower` follows a list, nearest first, from one element to the nearest after it that is indented
less. `NestedBy.lineages_reverse` says that the lineages of a nested forest are such chains through
the nodes listed before, so that the parent of a node is the nearest one before it that is indented
less. `nestedBy_of_nearest` is the converse: a forest with these parents is nested.
-/

namespace SpecSkeleton

/-! ## Chains of nearest less indented elements -/

section
variable {α β : Type} {indent : α → Nat}

/-- The nearest element indented less than the bound, the nearest after it indented less than
itself, and so on. -/
def shallower (indent : α → Nat) (bound : Nat) : List α → List α
  | [] => []
  | a :: earlier =>
    if indent a < bound then a :: shallower indent (indent a) earlier
    else shallower indent bound earlier

theorem shallower_head? (bound : Nat) (earlier : List α) :
    (shallower indent bound earlier).head? = earlier.find? fun a => indent a < bound := by
  induction earlier with
  | nil => rfl
  | cons a earlier ih =>
    by_cases h : indent a < bound
    · simp [shallower, h]
    · simp [shallower, h, ih]

theorem shallower_append {bound : Nat} {near : List α} (h : ∀ a ∈ near, bound ≤ indent a)
    (far : List α) : shallower indent bound (near ++ far) = shallower indent bound far := by
  induction near with
  | nil => rfl
  | cons a near ih =>
    have ha : ¬ indent a < bound := Nat.not_lt.mpr (h a (List.mem_cons_self ..))
    simp [shallower, ha, ih fun b hb => h b (List.mem_cons_of_mem _ hb)]

theorem shallower_map (f : β → α) (bound : Nat) (earlier : List β) :
    shallower indent bound (earlier.map f) =
      (shallower (fun b => indent (f b)) bound earlier).map f := by
  induction earlier generalizing bound with
  | nil => rfl
  | cons b earlier ih =>
    by_cases h : indent (f b) < bound
    · simp [shallower, h, ih]
    · simp [shallower, h, ih]

theorem shallower_congr {other : α → Nat} (bound : Nat) {earlier : List α}
    (h : ∀ a ∈ earlier, indent a = other a) :
    shallower indent bound earlier = shallower other bound earlier := by
  induction earlier generalizing bound with
  | nil => rfl
  | cons a earlier ih =>
    have ih := fun bound => ih bound fun b hb => h b (List.mem_cons_of_mem _ hb)
    simp only [shallower, h a (List.mem_cons_self ..), ih]

/-- Each element in front of its chain, given the elements before the list, nearest first. -/
def shallowerChains (indent : α → Nat) (before : List α) : List α → List (List α)
  | [] => []
  | a :: rest =>
    (a :: shallower indent (indent a) before) :: shallowerChains indent (a :: before) rest

theorem shallowerChains_append (before xs ys : List α) :
    shallowerChains indent before (xs ++ ys) =
      shallowerChains indent before xs ++ shallowerChains indent (xs.reverse ++ before) ys := by
  induction xs generalizing before with
  | nil => rfl
  | cons a xs ih => simp [shallowerChains, ih]

theorem shallowerChains_getElem? (before xs : List α) (i : Nat) :
    (shallowerChains indent before xs)[i]? =
      xs[i]?.map fun a => a :: shallower indent (indent a) ((xs.take i).reverse ++ before) := by
  induction xs generalizing before i with
  | nil => simp [shallowerChains]
  | cons a xs ih =>
    cases i with
    | zero => simp [shallowerChains]
    | succ i => simp [shallowerChains, ih]

end

namespace Forest

variable {ind : Nat → Nat}

/-! ## Lineages of a nested forest -/

/-- A later sibling skips all of an earlier one, because nothing in that is indented less than it.
-/
theorem NestedBy.shallower_later {n m : Node} {rest : List Node} (h : NestedBy ind (n :: rest))
    (hm : m ∈ rest) (before : List Node) :
    shallower (fun m => ind m.row) (ind m.row)
        (((Forest.nodes n.children).map Node.leaf).reverse ++ n.leaf :: before) =
      shallower (fun m => ind m.row) (ind m.row) before := by
  obtain ⟨hlt, hchildren, -, -⟩ := nestedBy_cons.mp h
  have hle := h.later_le m hm
  have hdeep := hchildren.le_of_mem_nodes (ind n.row) fun c hc => Nat.le_of_lt (hlt c hc)
  have hskip : ∀ a ∈ ((Forest.nodes n.children).map Node.leaf).reverse ++ [n.leaf],
      ind m.row ≤ ind a.row := by
    intro a ha
    simp only [List.mem_append, List.mem_reverse, List.mem_map, List.mem_singleton] at ha
    rcases ha with ⟨d, hd, rfl⟩ | rfl
    · exact Nat.le_trans hle (hdeep d hd)
    · exact hle
  have happend := shallower_append hskip before
  rw [List.append_assoc, List.singleton_append] at happend
  exact happend

/-- The lineages of siblings, from the node up, go on with the chain that all roots have before
them. -/
theorem NestedBy.lineages_above {f : List Node} (h : NestedBy ind f) (before above : List Node)
    (hroots : ∀ n ∈ f, shallower (fun m => ind m.row) (ind n.row) before = above) :
    (lineages f).map (fun c => (c.map Node.leaf).reverse ++ above) =
      shallowerChains (fun m => ind m.row) before ((Forest.nodes f).map Node.leaf) := by
  induction f using siblings_induct generalizing before above with
  | nil => rfl
  | cons n rest ihc ihr =>
    obtain ⟨hlt, hchildren, -, hrest⟩ := nestedBy_cons.mp h
    have hn := hroots n (List.mem_cons_self ..)
    have hc : ∀ c ∈ n.children,
        shallower (fun m => ind m.row) (ind c.row) (n.leaf :: before) = n.leaf :: above := by
      intro c hc
      simp [shallower, hlt c hc, hn]
    have hm : ∀ m ∈ rest, shallower (fun m => ind m.row) (ind m.row)
        (((Forest.nodes n.children).map Node.leaf).reverse ++ n.leaf :: before) = above := by
      intro m hm
      rw [h.shallower_later hm]
      exact hroots m (List.mem_cons_of_mem _ hm)
    have ihc := ihc hchildren _ _ hc
    have ihr := ihr hrest _ _ hm
    have hlineage : ((fun c : List Node => (c.map Node.leaf).reverse ++ above) ∘ (n :: ·)) =
        fun c => (c.map Node.leaf).reverse ++ n.leaf :: above := by
      funext c
      simp
    rw [lineages_cons, nodes_cons]
    simp only [List.map_cons, List.map_append, List.map_map, hlineage, ihc, ihr, shallowerChains,
      shallowerChains_append]
    simp [hn]

/-- From the node up, the lineages of a nested forest are the chains through the nodes before. -/
theorem NestedBy.lineages_reverse {f : Forest} (h : NestedBy ind f) :
    (lineages f).map (fun c => (c.map Node.leaf).reverse) =
      shallowerChains (fun m => ind m.row) [] (f.nodes.map Node.leaf) := by
  simpa using h.lineages_above [] [] fun _ _ => rfl

/-! ## Nested by its parents -/

/-- For each row the nearest one before it that is indented less, given the rows before the list,
nearest first. -/
def nearestRows (ind : Nat → Nat) (before : List Nat) : List Nat → List (Option Nat)
  | [] => []
  | r :: rest => before.find? (fun q => ind q < ind r) :: nearestRows ind (r :: before) rest

theorem nearestRows_append (before xs ys : List Nat) :
    nearestRows ind before (xs ++ ys) =
      nearestRows ind before xs ++ nearestRows ind (xs.reverse ++ before) ys := by
  induction xs generalizing before with
  | nil => rfl
  | cons r xs ih => simp [nearestRows, ih]

theorem nearestRows_getElem? (before xs : List Nat) (i : Nat) :
    (nearestRows ind before xs)[i]? =
      xs[i]?.map fun r => ((xs.take i).reverse ++ before).find? fun q => ind q < ind r := by
  induction xs generalizing before i with
  | nil => simp [nearestRows]
  | cons r xs ih =>
    cases i with
    | zero => simp [nearestRows]
    | succ i => simp [nearestRows, ih]

theorem nearestRows_length (before xs : List Nat) :
    (nearestRows ind before xs).length = xs.length := by
  induction xs generalizing before with
  | nil => rfl
  | cons r xs ih => simp [nearestRows, ih]

/-- The row of the parent of the last node of a lineage that starts below a given row. -/
def parentRow (above : Option Nat) (c : List Node) : Option Nat :=
  (c.dropLast.getLast?.map Node.row).or above

theorem parentRow_cons (above : Option Nat) (n : Node) {c : List Node} (h : c ≠ []) :
    parentRow above (n :: c) = parentRow (some n.row) c := by
  rw [parentRow, parentRow, List.dropLast_cons_of_ne_nil h, List.getLast?_cons]
  cases c.dropLast.getLast? <;> rfl

theorem lineages_length (f : List Node) : (lineages f).length = (Forest.nodes f).length := by
  simpa using congrArg List.length (lineages_getLast? f)

theorem above_eq_find? {n : Node} {rest : List Node} {above : Option Nat} {before : List Nat}
    (h : (lineages (n :: rest)).map (parentRow above) =
      nearestRows ind before ((Forest.nodes (n :: rest)).map Node.row)) :
    above = before.find? fun q => ind q < ind n.row := by
  rw [lineages_cons, nodes_cons] at h
  exact (List.cons.inj h).1

/-- A sibling with the same parent as an earlier one is not indented more than that: its parent would
be that one, or below it. -/
theorem le_of_above_eq {n m : Node} {above : Option Nat} {before : List Nat}
    (hm : above = (((Forest.nodes n.children).map Node.row).reverse ++ n.row :: before).find?
      fun q => ind q < ind m.row)
    (habove : ∀ a ∈ above, a < n.row ∧ ∀ d ∈ Forest.nodes n.children, a < d.row) :
    ind m.row ≤ ind n.row := by
  apply Nat.le_of_not_lt
  intro hdeeper
  rw [List.append_cons, List.find?_append] at hm
  obtain ⟨q, hq⟩ : ∃ q, (((Forest.nodes n.children).map Node.row).reverse ++ [n.row]).find?
      (fun q => decide (ind q < ind m.row)) = some q :=
    Option.isSome_iff_exists.mp (List.find?_isSome.mpr ⟨n.row, by simp, by simpa using hdeeper⟩)
  rw [hq, Option.some_or] at hm
  obtain ⟨hn, hd⟩ := habove q hm
  have hmem := List.mem_of_find?_eq_some hq
  simp only [List.mem_append, List.mem_reverse, List.mem_map, List.mem_singleton] at hmem
  rcases hmem with ⟨d, hdmem, rfl⟩ | rfl
  · exact Nat.lt_irrefl _ (hd d hdmem)
  · exact Nat.lt_irrefl _ hn

/-- A forest in which each parent is the nearest less indented row before its child is nested. -/
theorem nestedBy_of_nearest {f : List Node} (above : Option Nat) (before : List Nat)
    (hrows : ((Forest.nodes f).map Node.row).Pairwise (· < ·))
    (habove : ∀ a ∈ above, ∀ n ∈ Forest.nodes f, a < n.row)
    (hparents : (lineages f).map (parentRow above) =
      nearestRows ind before ((Forest.nodes f).map Node.row)) :
    NestedBy ind f ∧ ∀ a ∈ above, ∀ r ∈ f, ind a < ind r.row := by
  induction f using siblings_induct generalizing above before with
  | nil => exact ⟨trivial, by simp⟩
  | cons n rest ihc ihr =>
    have hchild : (lineages n.children).map (parentRow above ∘ (n :: ·)) =
        (lineages n.children).map (parentRow (some n.row)) :=
      List.map_congr_left fun c hc => parentRow_cons above n (ne_nil_of_mem_lineages c hc)
    have hn := above_eq_find? hparents
    rw [lineages_cons, nodes_cons] at hparents
    simp only [List.map_cons, List.map_append, List.map_map, hchild, nearestRows,
      nearestRows_append, List.cons.injEq] at hparents
    obtain ⟨hc, hr⟩ :=
      List.append_inj hparents.2 (by simp [nearestRows_length, lineages_length])
    simp only [nodes_cons, List.map_cons, List.map_append, List.pairwise_cons,
      List.pairwise_append] at hrows
    obtain ⟨hfirst, hrowsc, hrowsr, -⟩ := hrows
    simp only [nodes_cons, List.mem_cons, List.mem_append] at habove
    have ⟨hchildren, hlt⟩ := ihc _ _ hrowsc (fun a ha m hm => by
      cases ha
      exact hfirst m.row (List.mem_append_left _ (List.mem_map_of_mem hm))) hc
    have ⟨hrest, hroots⟩ := ihr _ _ hrowsr (fun a ha m hm => habove a ha m (.inr (.inr hm))) hr
    refine ⟨nestedBy_cons.mpr ⟨hlt n.row rfl, hchildren, fun m hm => ?_, hrest⟩, ?_⟩
    · obtain ⟨others, rfl⟩ : ∃ others, rest = m :: others := List.head?_eq_some_iff.mp hm
      refine le_of_above_eq (above_eq_find? hr) fun a ha => ?_
      exact ⟨habove a ha n (.inl rfl), fun d hd => habove a ha d (.inr (.inl hd))⟩
    · intro a ha r hr
      rcases List.mem_cons.mp hr with rfl | hr
      · have hless := List.find?_some (hn.symm.trans ha)
        exact of_decide_eq_true hless
      · exact hroots a ha r hr

end Forest

end SpecSkeleton
