import SpecSkeleton.Node.Path

/-!
# Lineages

The lineage of a node is the list of the nodes from its root down to itself. A forest is listed by
its lineages in source order, one for each node. `walk_ancestors` says that the ancestors of the
paths of a walk are this list, and `lineage_of_walk` reads node and parent of an entry off its
lineage. A node holds all below it, so lists of nodes are compared without children (`Node.leaf`).
-/

namespace SpecSkeleton

/-! ## Forests node by node -/

/-- The node without its children. -/
def Node.leaf (n : Node) : Node :=
  { n with children := [] }

@[simp]
theorem Node.leaf_row (n : Node) : n.leaf.row = n.row := rfl

namespace Forest

/-- A statement about forests follows from that about the children of a node and that about the
siblings after it. -/
theorem siblings_induct {motive : List Node → Prop} (nil : motive [])
    (cons : ∀ n rest, motive n.children → motive rest → motive (n :: rest)) :
    ∀ f, motive f
  | [] => nil
  | ⟨kind, name, row, file, children⟩ :: rest =>
    cons ⟨kind, name, row, file, children⟩ rest (siblings_induct nil cons children)
      (siblings_induct nil cons rest)

@[simp]
theorem nodes_nil : Forest.nodes [] = [] := rfl

theorem nodes_cons (n : Node) (rest : List Node) :
    Forest.nodes (n :: rest) = n :: (Forest.nodes n.children ++ Forest.nodes rest) := by
  cases n
  rfl

theorem nodes_append (f g : List Node) :
    Forest.nodes (f ++ g) = Forest.nodes f ++ Forest.nodes g := by
  induction f with
  | nil => rfl
  | cons n f ih => simp [nodes_cons, ih]

theorem mem_nodes_of_mem {n : Node} {f : List Node} (h : n ∈ f) : n ∈ Forest.nodes f := by
  obtain ⟨before, after, rfl⟩ := List.append_of_mem h
  simp [nodes_append, nodes_cons]

end Forest

mutual

/-- The lineages of a node and of all nodes below it, each from the node down. -/
def Node.lineages : Node → List (List Node)
  | ⟨kind, name, row, file, children⟩ =>
    let n : Node := ⟨kind, name, row, file, children⟩
    [n] :: (Forest.lineages children).map (n :: ·)

/-- The lineages of all nodes, in source order, each from the root down. -/
def Forest.lineages : List Node → List (List Node)
  | [] => []
  | n :: rest => n.lineages ++ Forest.lineages rest

end

namespace Forest

@[simp]
theorem lineages_nil : lineages [] = [] := rfl

theorem lineages_cons (n : Node) (rest : List Node) :
    lineages (n :: rest) = [n] :: ((lineages n.children).map (n :: ·) ++ lineages rest) := by
  cases n
  rfl

theorem ne_nil_of_mem_lineages {f : List Node} : ∀ c ∈ lineages f, c ≠ [] := by
  induction f using siblings_induct with
  | nil => simp
  | cons n rest _ ih =>
    intro c hc
    simp only [lineages_cons, List.mem_cons, List.mem_append, List.mem_map] at hc
    rcases hc with rfl | ⟨d, -, rfl⟩ | hc
    · simp
    · simp
    · exact ih c hc

theorem getLast?_cons_of_ne_nil {n : Node} {c : List Node} (h : c ≠ []) :
    (n :: c).getLast? = c.getLast? := by
  rw [List.getLast?_cons, List.getLast?_eq_some_getLast h]
  rfl

/-- A lineage ends at its node. -/
theorem lineages_getLast? (f : List Node) :
    (lineages f).map List.getLast? = (Forest.nodes f).map some := by
  induction f using siblings_induct with
  | nil => rfl
  | cons n rest ihc ihr =>
    have hc : (lineages n.children).map (List.getLast? ∘ (n :: ·)) =
        (lineages n.children).map List.getLast? :=
      List.map_congr_left fun c hc => getLast?_cons_of_ne_nil (ne_nil_of_mem_lineages c hc)
    simp only [lineages_cons, nodes_cons, List.map_cons, List.map_append, List.map_map, hc, ihc,
      ihr, List.getLast?_singleton]

/-! ## The walk -/

theorem walkSiblings_cons (base : IndexPath) (k : Nat) (n : Node) (rest : List Node) :
    walkSiblings base k (n :: rest) =
      (base ++ [(k : Int)], n) ::
        (walkSiblings (base ++ [(k : Int)]) 0 n.children ++ walkSiblings base (k + 1) rest) := by
  cases n
  rfl

/-- The paths below a position continue its path. -/
theorem walkSiblings_base (f : List Node) : ∀ (base tail : IndexPath) (k : Nat),
    walkSiblings (base ++ tail) k f = (walkSiblings tail k f).map fun e => (base ++ e.1, e.2) := by
  induction f using siblings_induct with
  | nil => intro base tail k; rfl
  | cons n rest ihc ihr =>
    intro base tail k
    simp only [walkSiblings_cons, List.map_cons, List.map_append, List.append_assoc, ihr base tail,
      ← ihc base]

theorem walk_base (f : List Node) (base : IndexPath) :
    walkSiblings base 0 f = (Forest.walk f []).map fun e => (base ++ e.1, e.2) := by
  simpa [Forest.walk] using walkSiblings_base f base [] 0

theorem walkSiblings_snd (f : List Node) : ∀ (base : IndexPath) (k : Nat),
    (walkSiblings base k f).map Prod.snd = Forest.nodes f := by
  induction f using siblings_induct with
  | nil => intro base k; rfl
  | cons n rest ihc ihr =>
    intro base k
    simp only [walkSiblings_cons, nodes_cons, List.map_cons, List.map_append, ihc, ihr]

/-- The walk lists every node once, in source order. -/
theorem walk_snd (f : Forest) (base : IndexPath) : (f.walk base).map Prod.snd = f.nodes :=
  walkSiblings_snd f base 0

/-! ## Ancestors -/

theorem signedGet?_append_cons {α : Type} (before after : List α) (a : α) :
    signedGet? (before ++ a :: after) (before.length : Int) = some a := by
  have h : ¬ (before.length : Int) < 0 := by omega
  simp [signedGet?, h]

theorem ancestors_cons_of_signedGet? {f : Forest} {i : Int} {n : Node}
    (h : signedGet? f i = some n) (p : IndexPath) :
    f.ancestors (i :: p) = (Forest.ancestors n.children p).map (n :: ·) := by
  simp [Forest.ancestors, h]

theorem ancestors_cons_eq_ok {f : Forest} {i : Int} {p : IndexPath} {c : List Node}
    (h : f.ancestors (i :: p) = .ok c) :
    ∃ n d, signedGet? f i = some n ∧ Forest.ancestors n.children p = .ok d ∧ c = n :: d := by
  cases hn : signedGet? f i with
  | none => simp [Forest.ancestors, hn] at h
  | some n =>
    rw [ancestors_cons_of_signedGet? hn] at h
    cases hd : Forest.ancestors n.children p with
    | error fault => rw [hd] at h; cases h
    | ok d => rw [hd] at h; cases h; exact ⟨n, d, rfl, hd, rfl⟩

theorem walkSiblings_ancestors (f : List Node) : ∀ before : List Node,
    (walkSiblings [] before.length f).map (fun e => Forest.ancestors (before ++ f) e.1) =
      (lineages f).map Except.ok := by
  induction f using siblings_induct with
  | nil => intro before; rfl
  | cons n rest ihc ihr =>
    intro before
    have hn := signedGet?_append_cons before rest n
    have hchildren :
        (walkSiblings [(before.length : Int)] 0 n.children).map
            (fun e => Forest.ancestors (before ++ n :: rest) e.1) =
          ((lineages n.children).map (n :: ·)).map Except.ok := by
      have ih := ihc []
      rw [walk_base, List.map_map, List.map_map]
      have h : ((fun e => Forest.ancestors (before ++ n :: rest) e.1) ∘
          fun e : IndexPath × Node => ([(before.length : Int)] ++ e.1, e.2)) =
          (fun r : Except PathFault (List Node) => r.map (n :: ·)) ∘
            fun e : IndexPath × Node => Forest.ancestors n.children e.1 := by
        funext e
        exact ancestors_cons_of_signedGet? hn e.1
      rw [h, ← List.map_map]
      simp only [Forest.walk]
      simp only [List.length_nil, List.nil_append] at ih
      rw [ih, List.map_map]
      rfl
    have hrest := ihr (before ++ [n])
    simp only [List.length_append, List.length_singleton, List.append_assoc, List.singleton_append]
      at hrest
    rw [walkSiblings_cons, lineages_cons, List.map_cons, List.map_cons, List.map_append,
      List.map_append, List.nil_append, hchildren, hrest, ancestors_cons_of_signedGet? hn]
    rfl

/-- The ancestors of the paths of a walk are the lineages of the forest. -/
theorem walk_ancestors (f : Forest) :
    (f.walk []).map (fun e => f.ancestors e.1) = (lineages f).map Except.ok := by
  simpa [Forest.walk] using walkSiblings_ancestors f []

theorem length_of_ancestors {f : Forest} {p : IndexPath} {c : List Node}
    (h : f.ancestors p = .ok c) : c.length = p.length := by
  induction p generalizing f c with
  | nil => cases h; rfl
  | cons i p ih =>
    obtain ⟨n, d, -, hd, rfl⟩ := ancestors_cons_eq_ok h
    simp [ih hd]

/-! ## Parents -/

/-- The node that has the node at a position among its children. -/
def parentAt (f : Forest) (p : IndexPath) : Option Node :=
  (f.nodeAt p.dropLast).toOption

theorem nodeAt_of_ancestors {f : Forest} {p : IndexPath} {c : List Node}
    (h : f.ancestors p = .ok c) : (f.nodeAt p).toOption = c.getLast? := by
  induction p generalizing f c with
  | nil => cases h; rfl
  | cons i p ih =>
    obtain ⟨n, d, hn, hd, rfl⟩ := ancestors_cons_eq_ok h
    simp only [Forest.nodeAt, hn]
    cases p with
    | nil => cases hd; rfl
    | cons j p =>
      obtain ⟨m, r, -, -, rfl⟩ := ancestors_cons_eq_ok hd
      rw [getLast?_cons_of_ne_nil (List.cons_ne_nil m r)]
      exact ih hd

theorem ancestors_dropLast {f : Forest} {p : IndexPath} {c : List Node}
    (h : f.ancestors p = .ok c) : f.ancestors p.dropLast = .ok c.dropLast := by
  induction p generalizing f c with
  | nil => cases h; rfl
  | cons i p ih =>
    obtain ⟨n, d, hn, hd, rfl⟩ := ancestors_cons_eq_ok h
    cases p with
    | nil => cases hd; rfl
    | cons j p =>
      obtain ⟨m, r, -, -, rfl⟩ := ancestors_cons_eq_ok hd
      rw [List.dropLast_cons_of_ne_nil (List.cons_ne_nil j p),
        List.dropLast_cons_of_ne_nil (List.cons_ne_nil m r), ancestors_cons_of_signedGet? hn, ih hd]
      rfl

theorem parentAt_of_ancestors {f : Forest} {p : IndexPath} {c : List Node}
    (h : f.ancestors p = .ok c) : f.parentAt p = c.dropLast.getLast? :=
  nodeAt_of_ancestors (ancestors_dropLast h)

/-- Each entry of the walk stands for a lineage: its path has the lineage as its ancestors, its node
ends it, and the parent of the node is the last but one of it. -/
theorem lineage_of_walk {f : Forest} {i : Nat} {p : IndexPath} {n : Node}
    (h : (f.walk [])[i]? = some (p, n)) :
    ∃ c, (lineages f)[i]? = some c ∧ f.ancestors p = .ok c ∧ c.getLast? = some n ∧
      f.parentAt p = c.dropLast.getLast? := by
  have ha : ((f.walk []).map fun e => f.ancestors e.1)[i]? = some (f.ancestors p) := by
    rw [List.getElem?_map, h]
    rfl
  rw [walk_ancestors, List.getElem?_map] at ha
  obtain ⟨c, hc, hp⟩ := Option.map_eq_some_iff.mp ha
  have hn : (f.nodes.map some)[i]? = some (some n) := by
    rw [← walk_snd f [], List.map_map, List.getElem?_map, h]
    rfl
  rw [← lineages_getLast?, List.getElem?_map, hc] at hn
  exact ⟨c, hc, hp.symm, Option.some.inj hn, parentAt_of_ancestors hp.symm⟩

end Forest

end SpecSkeleton
