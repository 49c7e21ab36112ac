import Mathlib.Data.List.Basic
import SpecSkeleton.Outline.Symbol
import SpecSkeleton.Proofs.Node.Lineage

/-!
# The visible part of a forest

A node is shown if it and all its ancestors are visible; `Forest.shown` lists these nodes with their
depths, as the walk finds them. `presentations_shown` says that the list of items, the unfolding of
a sidebar level by level and the tree of symbols all present this one list. They are written
independently, but obey the same two equations, so that `eq_shownFrom` serves for each.
-/

namespace SpecSkeleton

/-! ## Presentations -/

/-- The symbol of a node, without those nested in it. -/
def Node.symbol (n : Node) : DocumentSymbol where
  name := if n.item.label.isEmpty then n.kind.keyword else n.item.label
  detail := n.kind.keyword
  kind := n.kind.symbolNumber
  row := n.line - 1
  stop := n.name.length
  children := []

theorem Node.rowFault?_eq_none_iff {n : Node} :
    n.rowFault? = none ↔ n.row ≤ lastPosition ∧ n.name.length ≤ lastPosition := by
  unfold Node.rowFault?
  by_cases hrow : lastPosition < n.row
  · simp [hrow, Nat.not_le.mpr hrow]
  · by_cases hname : lastPosition < n.name.length
    · simp [hrow, hname]
    · simp [hrow, hname, Nat.not_lt.mp hrow, Nat.not_lt.mp hname]

/-- The symbols among siblings and below them, each before those nested in it, with their depths. -/
def DocumentSymbol.listing (depth : Nat) : List DocumentSymbol → List (Nat × DocumentSymbol)
  | [] => []
  | ⟨name, detail, kind, row, stop, children⟩ :: rest =>
    (depth, ⟨name, detail, kind, row, stop, []⟩) ::
      (listing (depth + 1) children ++ listing depth rest)

namespace Forest

variable (s : Settings)

theorem sizeOf_filter_le (p : Node → Bool) (f : List Node) : sizeOf (f.filter p) ≤ sizeOf f := by
  induction f with
  | nil => simp
  | cons n f ih =>
    by_cases h : p n
    · simpa [h] using ih
    · simp only [List.filter_cons, h, List.cons.sizeOf_spec]
      simp
      omega

theorem sizeOf_visibleChildren_lt (n : Node) : sizeOf (n.visibleChildren s) < sizeOf n := by
  cases n with
  | mk kind name row file children =>
    have := sizeOf_filter_le (Node.isVisible s) children
    simp only [Node.visibleChildren, Node.mk.sizeOf_spec]
    omega

/-- What a sidebar shows that asks for one level at a time: each of the given nodes, followed by
the visible ones among its children. -/
def unfolded (depth : Nat) : List Node → List (Nat × OutlineItem)
  | [] => []
  | n :: rest =>
    (depth, n.item) :: (unfolded (depth + 1) (n.visibleChildren s) ++ unfolded depth rest)
termination_by nodes => sizeOf nodes
decreasing_by
  · have := sizeOf_visibleChildren_lt s n
    simp only [List.cons.sizeOf_spec]
    omega
  · simp only [List.cons.sizeOf_spec]
    omega

/-- Whether no node of a lineage is hidden. -/
def allVisible (chain : List Node) : Bool :=
  chain.all (Node.isVisible s)

/-- Whether the node at a position and all its ancestors are visible. -/
def isShown (f : Forest) (p : IndexPath) : Bool :=
  match f.ancestors p with
  | .ok chain => allVisible s chain
  | .error _ => false

/-- The nodes that are shown, in the order of the walk, with their depths. -/
def shown (f : Forest) : List (Nat × Node) :=
  ((f.walk []).filter fun e => f.isShown s e.1).map fun e => (e.1.length - 1, e.2)

/-! ## Shown nodes by recursion -/

/-- The node that a lineage ends at, with its depth, if the lineage starts at the given one. -/
def lineageEntry (depth : Nat) (c : List Node) : Option (Nat × Node) :=
  c.getLast?.map fun n => (depth + (c.length - 1), n)

theorem lineageEntry_cons (depth : Nat) (n : Node) {c : List Node} (h : c ≠ []) :
    lineageEntry depth (n :: c) = lineageEntry (depth + 1) c := by
  have hlen := List.length_pos_iff.mpr h
  have hdepth : depth + ((n :: c).length - 1) = depth + 1 + (c.length - 1) := by
    simp only [List.length_cons]
    omega
  rw [lineageEntry, getLast?_cons_of_ne_nil h, hdepth]
  rfl

/-- The shown nodes among siblings at a depth and below them. -/
def shownFrom (depth : Nat) (f : List Node) : List (Nat × Node) :=
  ((lineages f).filter (allVisible s)).filterMap (lineageEntry depth)

variable {s}

theorem shownFrom_nil (depth : Nat) : shownFrom s depth [] = [] := rfl

theorem shownFrom_cons (depth : Nat) (n : Node) (rest : List Node) :
    shownFrom s depth (n :: rest) =
      if n.isVisible s then
        (depth, n) :: (shownFrom s (depth + 1) n.children ++ shownFrom s depth rest)
      else shownFrom s depth rest := by
  by_cases hn : n.isVisible s
  · have hbelow : ∀ c ∈ (lineages n.children).filter (allVisible s),
        (lineageEntry depth ∘ (n :: ·)) c = lineageEntry (depth + 1) c := fun c hc =>
      lineageEntry_cons depth n (ne_nil_of_mem_lineages c (List.mem_filter.mp hc).1)
    have hall : allVisible s ∘ (n :: ·) = allVisible s := by
      funext c
      simp [allVisible, hn]
    have hself : lineageEntry depth [n] = some (depth, n) := rfl
    have hkeep : allVisible s [n] = true := by simp [allVisible, hn]
    rw [if_pos hn, shownFrom, lineages_cons, List.filter_cons_of_pos hkeep, List.filter_append,
      List.filter_map, hall, List.filterMap_cons_some hself, List.filterMap_append,
      List.filterMap_map, List.filterMap_congr hbelow]
    rfl
  · have hnone : ((lineages n.children).map (n :: ·)).filter (allVisible s) = [] := by
      simp [List.filter_eq_nil_iff, allVisible, hn]
    have hdrop : ¬ allVisible s [n] = true := by simp [allVisible, hn]
    rw [if_neg hn, shownFrom, lineages_cons, List.filter_cons_of_neg hdrop, List.filter_append,
      hnone]
    rfl

/-- A listing that passes over hidden nodes with all below them, and otherwise lists a node, what is
below it and the siblings after it, lists the shown nodes. -/
theorem eq_shownFrom {β : Type} (list : Nat → List Node → List β) {entry : Nat × Node → β}
    (hnil : ∀ depth, list depth [] = [])
    (hcons : ∀ depth n rest, list depth (n :: rest) =
      if n.isVisible s then
        entry (depth, n) :: (list (depth + 1) n.children ++ list depth rest)
      else list depth rest)
    (f : List Node) : ∀ depth, list depth f = (shownFrom s depth f).map entry := by
  induction f using siblings_induct with
  | nil => simp [hnil, shownFrom_nil]
  | cons n rest ihc ihr =>
    intro depth
    rw [hcons, shownFrom_cons]
    split <;> simp [ihc, ihr]

/-- The lineages are what the walk gives as ancestors. -/
theorem lineages_eq_map_walk (f : Forest) :
    lineages f = (f.walk []).map fun e => (f.ancestors e.1).toOption.getD [] := by
  have h := congrArg (List.map fun r => (Except.toOption r).getD []) (walk_ancestors f)
  simp only [List.map_map] at h
  rw [← List.map_id (lineages f)]
  exact h.symm

theorem shown_eq_shownFrom (f : Forest) : f.shown s = shownFrom s 0 f := by
  have hentry : ∀ e ∈ f.walk [], ∃ c, f.ancestors e.1 = .ok c ∧ c.getLast? = some e.2 ∧
      c.length = e.1.length := by
    intro e he
    obtain ⟨i, hi⟩ := List.getElem?_of_mem he
    obtain ⟨c, -, hc, hlast, -⟩ := lineage_of_walk hi
    exact ⟨c, hc, hlast, length_of_ancestors hc⟩
  have hshown : ∀ e ∈ f.walk [],
      allVisible s ((f.ancestors e.1).toOption.getD []) = f.isShown s e.1 := by
    intro e he
    obtain ⟨c, hc, -, -⟩ := hentry e he
    simp [isShown, hc, Except.toOption]
  have hlast : ∀ e ∈ (f.walk []).filter (fun e => f.isShown s e.1),
      lineageEntry 0 ((f.ancestors e.1).toOption.getD []) = some (e.1.length - 1, e.2) := by
    intro e he
    obtain ⟨c, hc, hlast, hlen⟩ := hentry e (List.mem_filter.mp he).1
    simp [lineageEntry, hc, Except.toOption, hlast, hlen]
  calc f.shown s
      = ((f.walk []).filter fun e => f.isShown s e.1).filterMap
          fun e => some (e.1.length - 1, e.2) := by rw [shown, ← List.filterMap_eq_map]; rfl
    _ = ((f.walk []).filter fun e => f.isShown s e.1).filterMap
          fun e => lineageEntry 0 ((f.ancestors e.1).toOption.getD []) :=
        (List.filterMap_congr hlast).symm
    _ = shownFrom s 0 f := by
        rw [shownFrom, lineages_eq_map_walk, List.filter_map, List.filterMap_map,
          ← List.filter_congr hshown]
        rfl

/-! ## Each presentation -/

theorem items_eq_shown (f : Forest) :
    f.items s = (f.shown s).map fun e => (e.1, e.2.item) := by
  rw [shown_eq_shownFrom]
  refine eq_shownFrom (itemsAt s) (fun depth => by rw [itemsAt]) (fun depth n rest => ?_) f 0
  cases n
  rw [itemsAt]
  simp

theorem unfolded_visibleRoots (f : Forest) :
    unfolded s 0 (f.visibleRoots s) = (f.shown s).map fun e => (e.1, e.2.item) := by
  rw [shown_eq_shownFrom]
  refine eq_shownFrom (fun depth f => unfolded s depth (visibleRoots s f))
    (fun depth => by simp [visibleRoots, unfolded]) (fun depth n rest => ?_) f 0
  by_cases hn : n.isVisible s
  · simp only [visibleRoots, List.filter_cons_of_pos hn, unfolded, hn, if_true]
    rfl
  · simp [visibleRoots, hn]

theorem listing_symbols (f : Forest) :
    DocumentSymbol.listing 0 (symbols s f) = (f.shown s).map fun e => (e.1, e.2.symbol) := by
  rw [shown_eq_shownFrom]
  refine eq_shownFrom (fun depth f => DocumentSymbol.listing depth (symbols s f))
    (fun depth => by rw [symbols, DocumentSymbol.listing]) (fun depth n rest => ?_) f 0
  cases n
  rw [symbols]
  split
  · rw [DocumentSymbol.listing]
    rfl
  · rfl

theorem rowFault?_eq_findSome? (f : Forest) :
    rowFault? s f = (f.shown s).findSome? fun e => e.2.rowFault? := by
  rw [shown_eq_shownFrom]
  generalize 0 = depth
  induction f using siblings_induct generalizing depth with
  | nil => rw [rowFault?]; rfl
  | cons n rest ihc ihr =>
    rw [shownFrom_cons]
    cases n with
    | mk kind name row file children =>
      rw [rowFault?]
      split
      · simp only [List.findSome?_cons, List.findSome?_append, ← ihc, ← ihr]
        cases Node.rowFault? ⟨kind, name, row, file, children⟩ <;> rfl
      · exact ihr depth

theorem writtenSymbols_eq_ok_iff {f : Forest} {symbols : List DocumentSymbol} :
    f.writtenSymbols s = .ok symbols ↔ rowFault? s f = none ∧ Forest.symbols s f = symbols := by
  unfold writtenSymbols
  cases rowFault? s f <;> simp

theorem rowFault?_eq_none_iff {f : Forest} :
    rowFault? s f = none ↔
      ∀ e ∈ f.shown s, e.2.row ≤ lastPosition ∧ e.2.name.length ≤ lastPosition := by
  simp only [rowFault?_eq_findSome?, List.findSome?_eq_none_iff, Node.rowFault?_eq_none_iff]

/-- The items of a forest are those of its shown nodes, a sidebar that is unfolded level by level
has the same items, and so has the tree of symbols, which can be written just when no shown node
stands too far down or has too long a name. -/
theorem presentations_shown (s : Settings) (f : Forest) :
    f.items s = (f.shown s).map (fun e => (e.1, e.2.item)) ∧
      unfolded s 0 (f.visibleRoots s) = f.items s ∧
      (∀ symbols, f.writtenSymbols s = .ok symbols →
        DocumentSymbol.listing 0 symbols = (f.shown s).map fun e => (e.1, e.2.symbol)) ∧
      ((∃ symbols, f.writtenSymbols s = .ok symbols) ↔
        ∀ e ∈ f.shown s, e.2.row ≤ lastPosition ∧ e.2.name.length ≤ lastPosition) := by
  refine ⟨items_eq_shown f, ?_, fun symbols h => ?_, ?_⟩
  · rw [unfolded_visibleRoots, items_eq_shown]
  · obtain ⟨-, rfl⟩ := writtenSymbols_eq_ok_iff.mp h
    exact listing_symbols f
  · rw [← rowFault?_eq_none_iff]
    constructor
    · rintro ⟨symbols, h⟩
      exact (writtenSymbols_eq_ok_iff.mp h).1
    · intro h
      exact ⟨Forest.symbols s f, writtenSymbols_eq_ok_iff.mpr ⟨h, rfl⟩⟩

/-- An example below a hidden hook is hidden, and a shared value without a name goes by its
keyword. -/
theorem presentations_shown_hidden_hook :
    let inner : Node := ⟨.it, "x", 2, "a_spec.rb", []⟩
    let f : Forest := [⟨.describe, "A", 0, "a_spec.rb",
      [⟨.before, "before", 1, "a_spec.rb", [inner]⟩, ⟨.letValue, "", 3, "a_spec.rb", []⟩]⟩]
    ∃ symbols, f.writtenSymbols { showHooks := false } = .ok symbols ∧
      (DocumentSymbol.listing 0 symbols).map (fun e => (e.1, e.2.name, e.2.row)) =
        [(0, "A", 0), (1, "let", 3)] ∧
      (f.items { showHooks := false }).map (fun e => (e.1, e.2.label)) = [(0, "A"), (1, "")] := by
  intro inner f
  obtain ⟨hitems, -, hlisting, hwritten⟩ := presentations_shown { showHooks := false } f
  obtain ⟨symbols, h⟩ := hwritten.mpr (by decide)
  refine ⟨symbols, h, ?_, ?_⟩
  · rw [hlisting symbols h]
    decide
  · rw [hitems]
    decide

/-- A node one row below the last that can be written is shown, but there are no symbols then. -/
theorem no_symbols_past_lastPosition :
    let n : Node := ⟨.it, "n", 2147483648, "a_spec.rb", []⟩
    Forest.shown .default [n] = [(0, n)] ∧
      ¬ ∃ symbols, Forest.writtenSymbols .default [n] = .ok symbols ∧
        DocumentSymbol.listing 0 symbols = (Forest.shown .default [n]).map fun e =>
          (e.1, e.2.symbol) := by
  intro n
  refine ⟨rfl, ?_⟩
  rintro ⟨symbols, h, -⟩
  have hfault := (writtenSymbols_eq_ok_iff.mp h).1
  rw [rowFault?_eq_none_iff] at hfault
  exact absurd (hfault (0, n) (List.mem_singleton.mpr rfl)).1 (by decide)

end Forest

end SpecSkeleton
