import SpecSkeleton.Proofs.Outline.Openings
import SpecSkeleton.Proofs.Text.Rows

/-!
# A text after another

When a text goes on behind a line feed, its openings are followed by those of the text that is added
(`openings_append`). What is added only ever extends the spine of the forest, so that the nodes of
the first text keep their places (`places_grouped_append`). `parse_append` says this of the parse,
and that the two forests stand side by side just if the first opening that is added is indented no
more than any before it.
-/

namespace SpecSkeleton

/-! ## Moving down -/

mutual

/-- The node with all below it, `k` rows further down. -/
def Node.movedDown (k : Nat) : Node → Node
  | ⟨kind, name, row, file, children⟩ =>
    ⟨kind, name, row + k, file, Forest.movedDown k children⟩

def Forest.movedDown (k : Nat) : List Node → List Node
  | [] => []
  | n :: rest => n.movedDown k :: Forest.movedDown k rest

end

def Opening.movedDown (k : Nat) (o : Opening) : Opening :=
  { o with row := o.row + k }

namespace Forest

variable {ind : Nat → Nat} {k : Nat}

theorem leaves_movedDown (k : Nat) (f : List Node) :
    (Forest.nodes (movedDown k f)).map Node.leaf =
      (Forest.nodes f).map fun n => n.leaf.movedDown k := by
  induction f using siblings_induct with
  | nil => rfl
  | cons n rest ihc ihr =>
    cases n
    simp only [movedDown, Node.movedDown, nodes_cons, List.map_cons, List.map_append, ihc, ihr]
    rfl

theorem nestedBy_movedDown {f : List Node} :
    NestedBy ind (movedDown k f) ↔ NestedBy (fun row => ind (row + k)) f := by
  have hrow (n : Node) : (n.movedDown k).row = n.row + k := by cases n; rfl
  have hmem (f : List Node) : movedDown k f = f.map (Node.movedDown k) := by
    induction f with
    | nil => rfl
    | cons n rest ih => rw [movedDown, ih, List.map_cons]
  induction f using siblings_induct with
  | nil => exact Iff.rfl
  | cons n rest ihc ihr =>
    have hchildren : (n.movedDown k).children = movedDown k n.children := by cases n; rfl
    simp only [movedDown, nestedBy_cons, hchildren, ihc, ihr, hrow]
    simp [hrow, hmem]

/-! ## Siblings after siblings -/

theorem nestedBy_append {f g : List Node} :
    NestedBy ind (f ++ g) ↔ NestedBy ind f ∧ NestedBy ind g ∧
      ∀ m ∈ g.head?, ∀ n ∈ f.getLast?, ind m.row ≤ ind n.row := by
  induction f with
  | nil => simp [NestedBy]
  | cons n f ih =>
    rw [List.cons_append, nestedBy_cons, nestedBy_cons, ih]
    cases f with
    | nil => simp [NestedBy, and_assoc, and_left_comm, and_comm]
    | cons m f => simp [and_assoc]

/-- The last root is indented no more than any node. -/
theorem NestedBy.getLast?_le {f : List Node} (h : NestedBy ind f) {n : Node}
    (hn : n ∈ f.getLast?) : ∀ m ∈ Forest.nodes f, ind n.row ≤ ind m.row := by
  apply h.le_of_mem_nodes
  intro r hr
  obtain ⟨before, after, rfl⟩ := List.append_of_mem hr
  have hlater := (nestedBy_append.mp h).2.1.later_le
  rw [Option.mem_def, List.getLast?_append, List.getLast?_cons, Option.some_or] at hn
  cases hlast : after.getLast? with
  | none =>
    rw [hlast] at hn
    cases hn
    exact Nat.le_refl _
  | some m =>
    rw [hlast] at hn
    cases hn
    exact hlater _ (List.mem_of_getLast? hlast)

/-! ## The places of nodes -/

/-- A node without its children, and its path. -/
def place (e : IndexPath × Node) : IndexPath × Node :=
  (e.1, e.2.leaf)

theorem leaves_of_places (f : Forest) :
    ((f.walk []).map place).map Prod.snd = f.nodes.map Node.leaf := by
  rw [← walk_snd f [], List.map_map, List.map_map]
  rfl

/-- Nodes that keep their places keep their numbers in the walk. -/
theorem getElem?_of_places {es fs : List (IndexPath × Node)} (h : es.map place <+: fs.map place)
    {i : Nat} {p : IndexPath} {n : Node} (hi : es[i]? = some (p, n)) :
    ∃ n', fs[i]? = some (p, n') := by
  obtain ⟨later, hlater⟩ := h
  have hlt : i < (es.map place).length := by
    rw [List.length_map]
    exact (List.getElem?_eq_some_iff.mp hi).1
  have hplace : (fs.map place)[i]? = some (place (p, n)) := by
    rw [← hlater, List.getElem?_append_left hlt, List.getElem?_map, hi, Option.map_some]
  rw [List.getElem?_map] at hplace
  obtain ⟨⟨p', n'⟩, hi', heq⟩ := Option.map_eq_some_iff.mp hplace
  obtain rfl : p' = p := congrArg Prod.fst heq
  exact ⟨n', hi'⟩

/-- Entries that come later leave the nodes of the earlier ones in their places: they go below the
last of them, or after all. -/
theorem places_grouped_append (es ds : List (Nat × Node)) (base : IndexPath) (k : Nat) :
    (walkSiblings base k (grouped es)).map place <+:
      (walkSiblings base k (grouped (es ++ ds))).map place := by
  induction es using grouped.induct generalizing ds base k with
  | case1 => simp [walkSiblings]
  | case2 indent leaf rest ihc ihr =>
    rw [List.cons_append, grouped_cons, grouped_cons, walkSiblings_cons, walkSiblings_cons,
      List.map_cons, List.map_cons, List.map_append, List.map_append]
    refine List.cons_prefix_cons.mpr ⟨rfl, ?_⟩
    have hsplit := List.takeWhile_append_dropWhile (p := isDeeper indent) (l := rest)
    by_cases hall : rest.dropWhile (isDeeper indent) = []
    · -- All earlier entries are below this one, and so are the next as long as they are deeper.
      have htake : rest.takeWhile (isDeeper indent) = rest := by
        rwa [hall, List.append_nil] at hsplit
      have hmore : (rest ++ ds).takeWhile (isDeeper indent) =
          rest.takeWhile (isDeeper indent) ++ ds.takeWhile (isDeeper indent) := by
        rw [List.takeWhile_append, htake, if_pos rfl]
      rw [hmore, hall, grouped_nil, walkSiblings, List.map_nil, List.append_nil]
      exact (ihc _ _ _).trans (List.prefix_append _ _)
    · have hsame : (rest ++ ds).takeWhile (isDeeper indent) =
          rest.takeWhile (isDeeper indent) := by
        rw [List.takeWhile_append, if_neg]
        intro hlen
        rw [(List.takeWhile_prefix _).eq_of_length hlen] at hsplit
        exact hall (List.append_right_eq_self.mp hsplit)
      have hlater : (rest ++ ds).dropWhile (isDeeper indent) =
          rest.dropWhile (isDeeper indent) ++ ds := by
        rw [List.dropWhile_append, if_neg (by simpa using hall)]
      rw [hsame, hlater]
      exact (List.prefix_append_right_inj _).mpr (ihr _ _ _)

end Forest

/-! ## The openings of a text that goes on -/

theorem Opening.ofRow?_add (row : List Char) (index k : Nat) :
    Opening.ofRow? row (index + k) = (Opening.ofRow? row index).map (Opening.movedDown k) := by
  unfold Opening.ofRow?
  cases KeywordLine.ofRow? row with
  | none => rfl
  | some line =>
    simp only [Option.bind_eq_bind, Option.bind_some]
    cases line.kind? <;> rfl

theorem rows_of_appended (a b : String) :
    Text.rows (a ++ "\n" ++ b).toList = Text.rows a.toList ++ Text.rows b.toList := by
  rw [← Text.rows_append]
  simp

theorem openings_append (a b : String) :
    openings (a ++ "\n" ++ b) =
      openings a ++ (openings b).map (Opening.movedDown (Text.rows a.toList).length) := by
  have hadded : (Text.rows b.toList).zipIdx (0 + (Text.rows a.toList).length) =
      (Text.rows b.toList).zipIdx.map (Prod.map id (· + (Text.rows a.toList).length)) := by
    rw [List.map_snd_add_zipIdx_eq_zipIdx, Nat.add_comm]
  unfold openings
  rw [rows_of_appended, List.zipIdx_append, hadded, List.filterMap_append, List.map_filterMap,
    List.filterMap_map]
  congr
  funext x
  exact Opening.ofRow?_add x.1 x.2 _

/-! ## The outline of a text that goes on -/

section
variable {a b file : String} {before added : Forest}

theorem mem_openings_append_left {o : Opening} (h : o ∈ openings a) :
    o ∈ openings (a ++ "\n" ++ b) :=
  openings_append a b ▸ List.mem_append_left _ h

theorem mem_openings_append_right {o : Opening} (h : o ∈ openings b) :
    o.movedDown (Text.rows a.toList).length ∈ openings (a ++ "\n" ++ b) :=
  openings_append a b ▸ List.mem_append_right _ (List.mem_map_of_mem h)

theorem leaves_added (hadded : parse .standard b file = .ok added) (k : Nat) :
    (Forest.nodes (Forest.movedDown k added)).map Node.leaf =
      ((openings b).map (Opening.movedDown k)).map (Opening.leaf file) := by
  have hdown : Node.movedDown k ∘ Opening.leaf file = Opening.leaf file ∘ Opening.movedDown k := rfl
  have hleaf := congrArg (List.map (Node.movedDown k)) (leaves_of_parse hadded)
  rw [List.map_map, List.map_map, hdown] at hleaf
  rw [Forest.leaves_movedDown, List.map_map]
  exact hleaf

theorem leaves_append (hbefore : parse .standard a file = .ok before)
    (hadded : parse .standard b file = .ok added) :
    (before ++ Forest.movedDown (Text.rows a.toList).length added).nodes.map Node.leaf =
      (openings (a ++ "\n" ++ b)).map (Opening.leaf file) := by
  rw [openings_append, Forest.nodes_append, List.map_append, List.map_append,
    leaves_of_parse hbefore, leaves_added hadded]

/-- The first forest is nested by the indentations of the whole text. -/
theorem nestedBy_before (hbefore : parse .standard a file = .ok before) :
    Forest.NestedBy (rowIndent (a ++ "\n" ++ b)) before := by
  obtain ⟨hnested, hleaf⟩ := eq_of_parse hbefore ▸ outline_nestedBy a file
  refine hnested.congr fun n hn => ?_
  obtain ⟨o, ho, hrow⟩ := exists_opening hleaf hn
  rw [← hrow, ← indent_of_mem_openings ho]
  exact indent_of_mem_openings (mem_openings_append_left ho)

/-- So is the second, moved down. -/
theorem nestedBy_added (hadded : parse .standard b file = .ok added) :
    Forest.NestedBy (rowIndent (a ++ "\n" ++ b))
      (Forest.movedDown (Text.rows a.toList).length added) := by
  obtain ⟨hnested, hleaf⟩ := eq_of_parse hadded ▸ outline_nestedBy b file
  refine Forest.nestedBy_movedDown.mpr (hnested.congr fun n hn => ?_)
  obtain ⟨o, ho, hrow⟩ := exists_opening hleaf hn
  rw [← hrow, ← indent_of_mem_openings ho]
  exact indent_of_mem_openings (mem_openings_append_right ho)

theorem head?_row_of_leaves {f : Forest} {os : List Opening}
    (hleaf : f.nodes.map Node.leaf = os.map (Opening.leaf file)) :
    f.head?.map Node.row = os.head?.map Opening.row := by
  have hrows := congrArg List.head? (rows_of_leaves hleaf)
  rw [List.head?_map, List.head?_map] at hrows
  cases f with
  | nil => exact hrows
  | cons n f => rwa [Forest.nodes_cons] at hrows

/-- The first root that is added may stand beside the last one before it just if its opening is
indented no more than any before it. -/
theorem indent_le_iff (hbefore : parse .standard a file = .ok before)
    (hadded : parse .standard b file = .ok added) :
    let ind := rowIndent (a ++ "\n" ++ b)
    let later := Forest.movedDown (Text.rows a.toList).length added
    (∀ m ∈ later.head?, ∀ n ∈ before.getLast?, ind m.row ≤ ind n.row) ↔
      ∀ q ∈ (openings b).head?, ∀ o ∈ openings a, q.indent ≤ o.indent := by
  intro ind later
  have hleaf := leaves_of_parse hbefore
  have hhead : later.head?.map Node.row =
      (openings b).head?.map fun q => q.row + (Text.rows a.toList).length := by
    rw [head?_row_of_leaves (leaves_added hadded _), List.head?_map, Option.map_map]
    rfl
  have hleft {o : Opening} (ho : o ∈ openings a) : o.indent = ind o.row :=
    indent_of_mem_openings (mem_openings_append_left ho)
  have hright {q : Opening} (hq : q ∈ openings b) :
      q.indent = ind (q.row + (Text.rows a.toList).length) :=
    indent_of_mem_openings (mem_openings_append_right hq)
  constructor
  · intro h q hq o ho
    have hnode : o.row ∈ before.nodes.map Node.row :=
      rows_of_leaves hleaf ▸ List.mem_map_of_mem ho
    obtain ⟨x, hx, hxrow⟩ := List.mem_map.mp hnode
    obtain ⟨n, hn⟩ : ∃ n, n ∈ before.getLast? := by
      cases hlast : before.getLast? with
      | none => rw [List.getLast?_eq_none_iff.mp hlast] at hx; cases hx
      | some n => exact ⟨n, rfl⟩
    rw [Option.mem_def.mp hq, Option.map_some] at hhead
    obtain ⟨m, hm, hmrow⟩ := Option.map_eq_some_iff.mp hhead
    have hnested : Forest.NestedBy ind before := nestedBy_before hbefore
    have hmn := h m hm n hn
    have hnx := hnested.getLast?_le hn x hx
    rw [hright (List.mem_of_mem_head? hq), hleft ho, ← hmrow, ← hxrow]
    exact Nat.le_trans hmn hnx
  · intro h m hm n hn
    rw [Option.mem_def.mp hm, Option.map_some] at hhead
    obtain ⟨q, hq, hqrow⟩ := Option.map_eq_some_iff.mp hhead.symm
    obtain ⟨o, ho, horow⟩ :=
      exists_opening hleaf (Forest.mem_nodes_of_mem (List.mem_of_getLast? hn))
    have hle := h q hq o ho
    rw [hright (List.mem_of_mem_head? hq), hleft ho] at hle
    rwa [← hqrow, ← horow]

/-- The nodes of the walk are numbered as their openings are. -/
theorem opening_of_walk (hleaf : before.nodes.map Node.leaf = (openings a).map (Opening.leaf file))
    {i : Nat} {e : IndexPath × Node} (hi : (before.walk [])[i]? = some e) :
    ∃ o, (openings a)[i]? = some o := by
  have hlt : i < (before.walk []).length := (List.getElem?_eq_some_iff.mp hi).1
  have hlen := congrArg List.length hleaf
  rw [List.length_map, List.length_map, ← Forest.walk_snd before [], List.length_map] at hlen
  exact ⟨_, List.getElem?_eq_getElem (hlen ▸ hlt)⟩

/-- What is added leaves the nodes before it in their places. -/
theorem places_of_parse {roots : Forest} (hbefore : parse .standard a file = .ok before)
    (hroots : parse .standard (a ++ "\n" ++ b) file = .ok roots) :
    (before.walk []).map Forest.place <+: (roots.walk []).map Forest.place := by
  rw [eq_of_parse hbefore, eq_of_parse hroots, openings_append, List.map_append,
    ofIndented_eq_grouped, ofIndented_eq_grouped]
  exact Forest.places_grouped_append _ _ [] 0

/-- What stands under a parent in the first part does so in the whole, because the openings before it
are the same. -/
theorem parentAt_of_place {roots : Forest} (hbefore : parse .standard a file = .ok before)
    (hroots : parse .standard (a ++ "\n" ++ b) file = .ok roots) {e : IndexPath × Node}
    (he : e ∈ before.walk []) :
    (roots.parentAt e.1).map Node.leaf = (before.parentAt e.1).map Node.leaf := by
  obtain ⟨hnested, hleaf⟩ := eq_of_parse hbefore ▸ outline_nestedBy a file
  obtain ⟨hnested', hleaf'⟩ := eq_of_parse hroots ▸ outline_nestedBy (a ++ "\n" ++ b) file
  obtain ⟨p, n⟩ := e
  obtain ⟨i, hi⟩ := List.mem_iff_getElem?.mp he
  obtain ⟨n', hi'⟩ := Forest.getElem?_of_places (places_of_parse hbefore hroots) hi
  obtain ⟨o, ho⟩ := opening_of_walk hleaf hi
  have hilt : i < (openings a).length := (List.getElem?_eq_some_iff.mp ho).1
  have ho' : (openings (a ++ "\n" ++ b))[i]? = some o := by
    rw [openings_append, List.getElem?_append_left hilt, ho]
  have hsame : (openings (a ++ "\n" ++ b)).take i = (openings a).take i := by
    rw [openings_append, List.take_append_of_le_length (Nat.le_of_lt hilt)]
  rw [parentAt_of_opening hnested hleaf (fun _ => indent_of_mem_openings) ho hi,
    parentAt_of_opening hnested' hleaf' (fun _ => indent_of_mem_openings) ho' hi', hsame]

end

/-- A text that goes on behind a line feed keeps the nodes of its first part at the head of the walk,
in the same places and under the same parents, and the nodes of the second part follow in their
order, moved down by the rows of the first. The roots of the two parts stand side by side just if
the first opening of the second is indented no more than any of the first. -/
theorem parse_append (a b file : String) :
    ∃ before added roots, parse .standard a file = .ok before ∧
      parse .standard b file = .ok added ∧ parse .standard (a ++ "\n" ++ b) file = .ok roots ∧
      let later := Forest.movedDown (Text.rows a.toList).length added
      (∃ places, (roots.walk []).map Forest.place = (before.walk []).map Forest.place ++ places ∧
        places.map Prod.snd = (Forest.walk later []).map fun e => e.2.leaf) ∧
      (∀ e ∈ before.walk [],
        (roots.parentAt e.1).map Node.leaf = (before.parentAt e.1).map Node.leaf) ∧
      (roots = before ++ later ↔
        ∀ q ∈ (openings b).head?, ∀ o ∈ openings a, q.indent ≤ o.indent) := by
  have hbefore := parse_standard a file
  have hadded := parse_standard b file
  have hroots := parse_standard (a ++ "\n" ++ b) file
  refine ⟨_, _, _, hbefore, hadded, hroots, ?_⟩
  intro later
  have hleaves := leaves_append hbefore hadded
  have hind : ∀ o ∈ openings (a ++ "\n" ++ b), o.indent = rowIndent (a ++ "\n" ++ b) o.row :=
    fun _ => indent_of_mem_openings
  obtain ⟨places, hplaces⟩ := places_of_parse hbefore hroots
  refine ⟨⟨places, hplaces.symm, ?_⟩, fun e => parentAt_of_place hbefore hroots, ?_⟩
  · have hsnd := congrArg (List.map Prod.snd) hplaces
    rw [List.map_append, Forest.leaves_of_places, Forest.leaves_of_places, leaves_of_parse hroots,
      ← hleaves, Forest.nodes_append, List.map_append] at hsnd
    rw [List.append_cancel_left hsnd, ← Forest.walk_snd _ [], List.map_map]
    rfl
  · rw [Forest.ofIndented_eq_iff (carry_entries _ file) (leaf_entries _ file),
      and_iff_left (entries_of_leaves hleaves hind), Forest.nestedBy_append,
      and_iff_right (nestedBy_before hbefore), and_iff_right (nestedBy_added hadded)]
    exact indent_le_iff hbefore hadded

/-- A group that is added behind another, indented less, with an element deeper than all before. -/
theorem parse_append_sibling :
    let a := "  describe 'a' do\n    it 'b'\n"
    let b := "\tcontext 'c'\n          let :d"
    ∃ before added roots, parse .standard a "a_spec.rb" = .ok before ∧
      parse .standard b "a_spec.rb" = .ok added ∧
      parse .standard (a ++ "\n" ++ b) "a_spec.rb" = .ok roots ∧
      (∃ n, ([0, 0], n) ∈ before.walk [] ∧
        (roots.parentAt [0, 0]).map Node.leaf = (before.parentAt [0, 0]).map Node.leaf) ∧
      (∀ q ∈ (openings b).head?, ∀ o ∈ openings a, q.indent ≤ o.indent) ∧
      roots = before ++ Forest.movedDown 3 added := by
  intro a b
  have hindent : ∀ q ∈ (openings b).head?, ∀ o ∈ openings a, q.indent ≤ o.indent := by
    decide +kernel
  obtain ⟨before, added, roots, hbefore, hadded, hroots, -, hparents, hiff⟩ :=
    parse_append a b "a_spec.rb"
  have hpath : [0, 0] ∈ (before.walk []).map Prod.fst := by
    rw [eq_of_parse hbefore]
    decide +kernel
  obtain ⟨e, he, hpath⟩ := List.mem_map.mp hpath
  have hrows : (Text.rows a.toList).length = 3 := by decide +kernel
  exact ⟨before, added, roots, hbefore, hadded, hroots, ⟨e.2, hpath ▸ he, hpath ▸ hparents e he⟩,
    hindent, hrows ▸ hiff.mpr hindent⟩

end SpecSkeleton
