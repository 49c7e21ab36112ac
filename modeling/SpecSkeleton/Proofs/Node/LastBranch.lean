import SpecSkeleton.Proofs.Node.Lineage

/-!
# The last branch of a forest

The last branch leads from the last root to its last child, and so on down to a node without
children. `Grows f g` says that `g` is `f` with nodes added behind the roots and behind the children
of nodes of the last branch, which is all that a scan from the first row to the last ever does.
Growing is transitive, so that it holds of any two stages of a scan. `Grows.extends` says what that
means for each node: those off the last branch are final, and lists get longer at their ends only.
-/

namespace SpecSkeleton

mutual

/-- The node, its last child, the last child of that, and so on. -/
def Node.lastBranch : Node → List Node
  | ⟨kind, name, row, file, children⟩ =>
    ⟨kind, name, row, file, children⟩ :: Forest.lastBranch children

/-- The last root, its last child, the last child of that, and so on. -/
def Forest.lastBranch : List Node → List Node
  | [] => []
  | n :: rest => if rest.isEmpty then n.lastBranch else Forest.lastBranch rest

end

namespace Forest

variable {f g h : List Node} {n : Node}

@[simp]
theorem lastBranch_nil : lastBranch [] = [] := rfl

theorem lastBranch_singleton (n : Node) : lastBranch [n] = n :: lastBranch n.children := by
  cases n
  rfl

theorem lastBranch_cons (n : Node) (hne : f ≠ []) : lastBranch (n :: f) = lastBranch f := by
  rw [lastBranch, if_neg (by simpa using hne)]

theorem lastBranch_concat (f : List Node) (n : Node) :
    lastBranch (f ++ [n]) = n :: lastBranch n.children := by
  induction f with
  | nil => exact lastBranch_singleton n
  | cons m f ih => rw [List.cons_append, lastBranch_cons m (by simp), ih]

/-! ## Growing -/

/-- Nodes are added behind the roots, and behind the children of the nodes of the last branch. -/
inductive Grows : List Node → List Node → Prop
  | nil (g : List Node) : Grows [] g
  | last {n m : Node} (later : List Node) (hleaf : m.leaf = n.leaf)
      (hchildren : Grows n.children m.children) : Grows [n] (m :: later)
  | earlier {f g : List Node} (n : Node) (hne : f ≠ []) (hrest : Grows f g) :
      Grows (n :: f) (n :: g)

theorem Grows.append (f added : List Node) : Grows f (f ++ added) := by
  induction f using siblings_induct generalizing added with
  | nil => exact .nil _
  | cons n rest ihc ihr =>
    cases rest with
    | nil =>
      have hchildren : Grows n.children n.children := by simpa using ihc []
      exact .last added rfl hchildren
    | cons m rest => exact .earlier n (List.cons_ne_nil m rest) (ihr added)

theorem Grows.refl (f : List Node) : Grows f f := by
  simpa using Grows.append f []

theorem Grows.trans (hfg : Grows f g) (hgh : Grows g h) : Grows f h := by
  induction hfg generalizing h with
  | nil g => exact .nil h
  | last later hleaf hchildren ih =>
    cases hgh with
    | last later' hleaf' hchildren' => exact .last later' (hleaf'.trans hleaf) (ih hchildren')
    | earlier _ _ _ => exact .last _ hleaf hchildren
  | earlier n hne hrest ih =>
    cases hgh with
    | last _ _ _ =>
      cases hrest
      exact absurd rfl hne
    | earlier _ _ hgh => exact .earlier n hne (ih hgh)

/-- A forest grows when the children of its last root do. -/
theorem Grows.concat {children : List Node} (older : List Node)
    (hgrows : Grows n.children children) :
    Grows (older ++ [n]) (older ++ [{ n with children }]) := by
  induction older with
  | nil => exact .last [] rfl hgrows
  | cons m older ih => exact .earlier m (by simp) ih

/-! ## What growing leaves -/

theorem Grows.roots (hgrows : Grows f g) : f.map Node.leaf <+: g.map Node.leaf := by
  induction hgrows with
  | nil g => exact List.nil_prefix
  | last later hleaf _ _ => exact List.cons_prefix_cons.mpr ⟨hleaf.symm, List.nil_prefix⟩
  | earlier n _ _ ih => exact List.cons_prefix_cons.mpr ⟨rfl, ih⟩

/-- Every node keeps its place and its children, those off the last branch with all below them. -/
theorem Grows.kept (hgrows : Grows f g) : ∀ (base : IndexPath) (k : Nat),
    ∀ e ∈ walkSiblings base k f, ∃ m, (e.1, m) ∈ walkSiblings base k g ∧ m.leaf = e.2.leaf ∧
      e.2.children.map Node.leaf <+: m.children.map Node.leaf ∧ (e.2 ∉ lastBranch f → m = e.2) := by
  induction hgrows with
  | nil g =>
    intro base k e he
    cases he
  | @last n m later hleaf hchildren ih =>
    intro base k e he
    have hnil : walkSiblings base (k + 1) [] = [] := rfl
    simp only [walkSiblings_cons, hnil, List.append_nil, List.mem_cons, List.mem_append] at he ⊢
    rw [lastBranch_singleton]
    rcases he with rfl | he
    · exact ⟨m, .inl rfl, hleaf, hchildren.roots, fun hoff => absurd List.mem_cons_self hoff⟩
    · obtain ⟨d, hd, hsame, hprefix, hoff⟩ := ih _ 0 e he
      exact ⟨d, .inr (.inl hd), hsame, hprefix,
        fun hbranch => hoff fun hmem => hbranch (List.mem_cons_of_mem _ hmem)⟩
  | @earlier f g n hne hrest ih =>
    intro base k e he
    simp only [walkSiblings_cons, List.mem_cons, List.mem_append] at he ⊢
    rw [lastBranch_cons n hne]
    rcases he with rfl | he | he
    · exact ⟨n, .inl rfl, rfl, List.prefix_rfl, fun _ => rfl⟩
    · exact ⟨e.2, .inr (.inl he), rfl, List.prefix_rfl, fun _ => rfl⟩
    · obtain ⟨m, hm, hsame⟩ := ih base (k + 1) e he
      exact ⟨m, .inr (.inr hm), hsame⟩

/-- Nothing of a forest is lost, moved or put in between; what is off the last branch is final. -/
structure Extends (f g : Forest) : Prop where
  /-- A node off the last branch is later the same in the same place, with all that is below it. -/
  final : ∀ e ∈ f.walk [], e.2 ∉ lastBranch f → e ∈ g.walk []
  roots : f.map Node.leaf <+: g.map Node.leaf
  children : ∀ e ∈ f.walk [], ∃ m, (e.1, m) ∈ g.walk [] ∧ m.leaf = e.2.leaf ∧
    e.2.children.map Node.leaf <+: m.children.map Node.leaf

theorem Grows.extends {f g : Forest} (hgrows : Grows f g) : Extends f g where
  final := by
    intro e he hoff
    obtain ⟨m, hm, -, -, hsame⟩ := hgrows.kept [] 0 e he
    rwa [hsame hoff] at hm
  roots := hgrows.roots
  children := by
    intro e he
    obtain ⟨m, hm, hleaf, hprefix, -⟩ := hgrows.kept [] 0 e he
    exact ⟨m, hm, hleaf, hprefix⟩

end Forest

end SpecSkeleton
