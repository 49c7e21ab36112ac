import SpecSkeleton.Outline.Parse
import SpecSkeleton.Proofs.Outline.Nearest

/-!
# The outline of a text

The openings of a text, its rows that are keyword lines with a kind, fix its forest. `IsOutline`
says how: one node for each opening, in order, under the nearest opening before it that is indented
less. `parse_standard_outline` says that a parse gives the one forest of which this holds.
-/

namespace SpecSkeleton

/-! ## Openings -/

theorem Opening.ofRow?_eq_some_iff {row : List Char} {i : Nat} {o : Opening} :
    Opening.ofRow? row i = some o ↔
      ∃ written tail,
        keywordAt? (dropReceiver (row.dropWhile Text.isBlank)) = some (written, tail) ∧
        Kind.ofLetters? (written.map Char.toLower) = some o.kind ∧
        namingPart? tail = some o.naming ∧ o.row = i ∧ o.indent = indentation row := by
  simp only [Opening.ofRow?, KeywordLine.ofRow?, Option.bind_eq_bind, Option.bind_eq_some_iff,
    Option.pure_def, Option.some.injEq, KeywordLine.kind?]
  constructor
  · rintro ⟨line, ⟨⟨written, tail⟩, hkeyword, naming, hnaming, rfl⟩, kind, hkind, rfl⟩
    exact ⟨written, tail, hkeyword, hkind, hnaming, rfl, rfl⟩
  · rintro ⟨written, tail, hkeyword, hkind, hnaming, hrow, hindent⟩
    refine ⟨_, ⟨(written, tail), hkeyword, o.naming, hnaming, rfl⟩, o.kind, hkind, ?_⟩
    cases o
    simp only at hrow hindent
    rw [hrow, hindent]

theorem Opening.ofRow?_eq_some {row : List Char} {index : Nat} {o : Opening}
    (h : Opening.ofRow? row index = some o) : o.row = index ∧ o.indent = indentation row := by
  obtain ⟨-, -, -, -, -, hrow, hindent⟩ := Opening.ofRow?_eq_some_iff.mp h
  exact ⟨hrow, hindent⟩

theorem mem_openings {text : String} {o : Opening} :
    o ∈ openings text ↔
      ∃ row, (Text.rows text.toList)[o.row]? = some row ∧ Opening.ofRow? row o.row = some o := by
  simp only [openings, List.mem_filterMap, List.mem_zipIdx_iff_getElem?, Prod.exists]
  constructor
  · rintro ⟨row, index, hrow, ho⟩
    rw [(Opening.ofRow?_eq_some ho).1]
    exact ⟨row, hrow, ho⟩
  · rintro ⟨row, hrow, ho⟩
    exact ⟨row, o.row, hrow, ho⟩

theorem pairwise_zipIdx_snd {α : Type} (l : List α) : l.zipIdx.Pairwise fun a b => a.2 < b.2 := by
  refine List.Pairwise.of_map (S := (· < ·)) Prod.snd (fun _ _ h => h) ?_
  rw [List.zipIdx_map_snd]
  exact List.pairwise_lt_range'

/-- Openings come in the order of their rows, and no row has two. -/
theorem openings_pairwise (text : String) :
    (openings text).Pairwise fun a b => a.row < b.row := by
  refine List.Pairwise.filterMap _ (fun a b hlt => ?_) (pairwise_zipIdx_snd _)
  intro o ho q hq
  rw [(Opening.ofRow?_eq_some ho).1, (Opening.ofRow?_eq_some hq).1]
  exact hlt

/-- How far a row of a text is indented. -/
def rowIndent (text : String) (row : Nat) : Nat :=
  indentation ((Text.rows text.toList).getD row [])

theorem indent_of_mem_openings {text : String} {o : Opening} (h : o ∈ openings text) :
    o.indent = rowIndent text o.row := by
  obtain ⟨row, hrow, ho⟩ := mem_openings.mp h
  rw [rowIndent, List.getD_eq_getElem?_getD, hrow]
  exact (Opening.ofRow?_eq_some ho).2

/-- The node of an opening, without children. -/
def Opening.leaf (file : String) (o : Opening) : Node :=
  ⟨o.kind, declaredName o.kind o.naming, o.row, file, []⟩

def Opening.entry (file : String) (o : Opening) : Nat × Node :=
  (o.indent, o.leaf file)

theorem carry_entries (text file : String) :
    Forest.Carry (rowIndent text) ((openings text).map (Opening.entry file)) := by
  intro e he
  obtain ⟨o, ho, rfl⟩ := List.mem_map.mp he
  exact indent_of_mem_openings ho

theorem leaf_entries (os : List Opening) (file : String) :
    ∀ e ∈ os.map (Opening.entry file), e.2.leaf = e.2 := by
  intro e he
  obtain ⟨o, -, rfl⟩ := List.mem_map.mp he
  rfl

/-! ## The forest of a text -/

theorem parse_standard (text file : String) :
    parse .standard text file =
      .ok (Forest.ofIndented ((openings text).map (Opening.entry file))) := by
  have hnode : Opening.node .standard file = fun o => pure (Opening.entry file o) := rfl
  have hforest : parseForest .standard text file =
      .ok (Forest.ofIndented ((openings text).map (Opening.entry file))) := by
    rw [parseForest, hnode, List.mapM_pure]
    rfl
  rw [parse, hforest]

/-- The forest of a text is nested, and its nodes are the openings. -/
theorem outline_nestedBy (text file : String) :
    Forest.NestedBy (rowIndent text)
        (Forest.ofIndented ((openings text).map (Opening.entry file))) ∧
      (Forest.ofIndented ((openings text).map (Opening.entry file))).nodes.map Node.leaf =
        (openings text).map (Opening.leaf file) := by
  obtain ⟨hnested, hentries⟩ :=
    (Forest.ofIndented_eq_iff (carry_entries text file) (leaf_entries _ file)).mp rfl
  refine ⟨hnested, ?_⟩
  have h := congrArg (List.map Prod.snd) hentries
  simpa [Forest.entries, Opening.entry, Function.comp_def] using h

theorem eq_of_parse {text file : String} {roots : Forest}
    (h : parse .standard text file = .ok roots) :
    roots = Forest.ofIndented ((openings text).map (Opening.entry file)) := by
  rw [parse_standard] at h
  cases h
  rfl

/-- The nodes of a parse are those of the openings. -/
theorem leaves_of_parse {text file : String} {roots : Forest}
    (h : parse .standard text file = .ok roots) :
    roots.nodes.map Node.leaf = (openings text).map (Opening.leaf file) := by
  rw [eq_of_parse h]
  exact (outline_nestedBy text file).2

/-! ## Outlines -/

/-- What a node says of itself: kind, name, line and file. -/
def Node.label (n : Node) : Kind × String × Nat × String :=
  (n.kind, n.name, n.line, n.file)

/-- What an opening fixes of its node. -/
def Opening.label (file : String) (o : Opening) : Kind × String × Nat × String :=
  (o.kind, declaredName o.kind o.naming, o.row + 1, file)

/-- The last of the openings before that is indented less. -/
def Opening.parent? (before : List Opening) (o : Opening) : Option Opening :=
  before.reverse.find? fun q => q.indent < o.indent

/-- What openings fix about a forest. -/
structure IsOutline (os : List Opening) (file : String) (roots : Forest) : Prop where
  labels : (roots.walk []).map (fun e => e.2.label) = os.map (Opening.label file)
  ascending : (roots.walk []).Pairwise fun a b => a.2.line < b.2.line
  root_iff : ∀ (i : Nat) (p : IndexPath) (n : Node) (o : Opening),
    (roots.walk [])[i]? = some (p, n) → os[i]? = some o →
      (p.length = 1 ↔ o.parent? (os.take i) = none)
  /-- The node one index up is that of the parent. -/
  parent : ∀ (i : Nat) (p : IndexPath) (n : Node) (o q : Opening),
    (roots.walk [])[i]? = some (p, n) → os[i]? = some o → o.parent? (os.take i) = some q →
      ∃ m, roots.nodeAt p.dropLast = .ok m ∧ m.row = q.row

/-- The node without children of a label. -/
def Node.ofLabel (l : Kind × String × Nat × String) : Node :=
  ⟨l.1, l.2.1, l.2.2.1 - 1, l.2.2.2, []⟩

theorem labels_iff {os : List Opening} {file : String} {roots : Forest} :
    (roots.walk []).map (fun e => e.2.label) = os.map (Opening.label file) ↔
      roots.nodes.map Node.leaf = os.map (Opening.leaf file) := by
  have hwalk : (roots.walk []).map (fun e => e.2.label) = roots.nodes.map Node.label := by
    rw [← Forest.walk_snd roots [], List.map_map]
    rfl
  rw [hwalk]
  constructor
  · intro h
    have hn : Node.leaf = Node.ofLabel ∘ Node.label := rfl
    have ho : Opening.leaf file = Node.ofLabel ∘ Opening.label file := rfl
    rw [hn, ho, ← List.map_map, ← List.map_map, h]
  · intro h
    have hn : Node.label = Node.label ∘ Node.leaf := rfl
    have ho : Opening.label file = Node.label ∘ Opening.leaf file := rfl
    rw [hn, ho, ← List.map_map, ← List.map_map, h]

theorem ascending_iff {roots : Forest} :
    ((roots.walk []).Pairwise fun a b => a.2.line < b.2.line) ↔
      (roots.nodes.map Node.row).Pairwise (· < ·) := by
  rw [← Forest.walk_snd roots [], List.map_map, List.pairwise_map]
  simp [Node.line]

section
variable {os : List Opening} {file : String} {ind : Nat → Nat} {f : Forest}

/-- The lineage of the node of an opening: the opening, its parent, the parent of that, and so on.
-/
theorem lineage_of_opening (hf : Forest.NestedBy ind f)
    (hleaf : f.nodes.map Node.leaf = os.map (Opening.leaf file))
    (hind : ∀ o ∈ os, o.indent = ind o.row) {i : Nat} {o : Opening} (ho : os[i]? = some o)
    {c : List Node} (hc : (Forest.lineages f)[i]? = some c) :
    (c.map Node.leaf).reverse =
      (o :: shallower Opening.indent o.indent (os.take i).reverse).map (Opening.leaf file) := by
  have h := congrArg (·[i]?) hf.lineages_reverse
  simp only [List.getElem?_map, hc, hleaf, shallowerChains_getElem?, ho, Option.map_some,
    Option.some.injEq, List.append_nil] at h
  rw [h, ← List.map_take, ← List.map_reverse, shallower_map, List.map_cons]
  have hearlier : ∀ q ∈ (os.take i).reverse, ind (q.leaf file).row = q.indent := fun q hq =>
    (hind q (List.mem_of_mem_take (List.mem_reverse.mp hq))).symm
  have hbound : ind (o.leaf file).row = o.indent := (hind o (List.mem_of_getElem? ho)).symm
  rw [shallower_congr _ hearlier, hbound]

theorem dropLast_getLast?_eq (c : List Node) : c.dropLast.getLast? = c.reverse.tail.head? := by
  rw [List.tail_reverse, List.head?_reverse]

/-- The parent of the node of an opening is the node of the parent of the opening. -/
theorem parentAt_of_opening (hf : Forest.NestedBy ind f)
    (hleaf : f.nodes.map Node.leaf = os.map (Opening.leaf file))
    (hind : ∀ o ∈ os, o.indent = ind o.row) {i : Nat} {o : Opening} (ho : os[i]? = some o)
    {p : IndexPath} {n : Node} (hp : (f.walk [])[i]? = some (p, n)) :
    (f.parentAt p).map Node.leaf = (o.parent? (os.take i)).map (Opening.leaf file) := by
  obtain ⟨c, hc, -, -, hparent⟩ := Forest.lineage_of_walk hp
  have h := lineage_of_opening hf hleaf hind ho hc
  have htail := congrArg (fun l => l.tail.head?) h
  simp only [List.map_cons, List.tail_cons, List.head?_map, shallower_head?] at htail
  rw [hparent, dropLast_getLast?_eq, Opening.parent?, ← htail, ← List.map_reverse, ← List.map_tail,
    List.head?_map]

theorem rows_of_leaves (hleaf : f.nodes.map Node.leaf = os.map (Opening.leaf file)) :
    f.nodes.map Node.row = os.map Opening.row := by
  have h := congrArg (List.map Node.row) hleaf
  rw [List.map_map, List.map_map] at h
  exact h

/-- Every node has its opening. -/
theorem exists_opening (hleaf : f.nodes.map Node.leaf = os.map (Opening.leaf file)) {n : Node}
    (hn : n ∈ f.nodes) : ∃ o ∈ os, o.row = n.row := by
  have hmem : n.row ∈ os.map Opening.row := rows_of_leaves hleaf ▸ List.mem_map_of_mem hn
  exact List.mem_map.mp hmem

theorem entries_of_leaves (hleaf : f.nodes.map Node.leaf = os.map (Opening.leaf file))
    (hind : ∀ o ∈ os, o.indent = ind o.row) :
    Forest.entries ind f = os.map (Opening.entry file) := by
  calc Forest.entries ind f
      = (f.nodes.map Node.leaf).map (fun n => (ind n.row, n)) := by simp [Forest.entries]
    _ = os.map (fun o => (ind o.row, o.leaf file)) := by rw [hleaf, List.map_map]; rfl
    _ = os.map (Opening.entry file) :=
        List.map_congr_left fun o ho => by rw [← hind o ho]; rfl

theorem isOutline_of_nestedBy (hf : Forest.NestedBy ind f)
    (hleaf : f.nodes.map Node.leaf = os.map (Opening.leaf file))
    (hind : ∀ o ∈ os, o.indent = ind o.row) (hrows : os.Pairwise fun a b => a.row < b.row) :
    IsOutline os file f where
  labels := labels_iff.mpr hleaf
  ascending := by
    rw [ascending_iff, rows_of_leaves hleaf]
    exact List.pairwise_map.mpr hrows
  root_iff := by
    intro i p n o hp ho
    obtain ⟨c, hc, hchain, -, -⟩ := Forest.lineage_of_walk hp
    have hlen := congrArg List.length (lineage_of_opening hf hleaf hind ho hc)
    rw [List.length_reverse, List.length_map, Forest.length_of_ancestors hchain, List.length_map,
      List.length_cons] at hlen
    rw [hlen, Opening.parent?, ← shallower_head?, List.head?_eq_none_iff,
      ← List.length_eq_zero_iff]
    omega
  parent := by
    intro i p n o q hp ho hq
    have h := parentAt_of_opening hf hleaf hind ho hp
    rw [hq, Option.map_some] at h
    obtain ⟨m, hm, hleafm⟩ := Option.map_eq_some_iff.mp h
    refine ⟨m, ?_, congrArg Node.row hleafm⟩
    unfold Forest.parentAt at hm
    cases hnode : f.nodeAt p.dropLast with
    | error fault => rw [hnode] at hm; cases hm
    | ok k => rw [hnode] at hm; cases hm; rfl

theorem IsOutline.parentAt_row (h : IsOutline os file f) {i : Nat} {o : Opening}
    (ho : os[i]? = some o) {p : IndexPath} {n : Node} (hp : (f.walk [])[i]? = some (p, n)) :
    (f.parentAt p).map Node.row = (o.parent? (os.take i)).map Opening.row := by
  cases hq : o.parent? (os.take i) with
  | none =>
    have hlen := (h.root_iff i p n o hp ho).mpr hq
    obtain ⟨k, rfl⟩ := List.length_eq_one_iff.mp hlen
    rfl
  | some q =>
    obtain ⟨m, hm, hrow⟩ := h.parent i p n o q hp ho hq
    simp [Forest.parentAt, hm, hrow, Except.toOption]

theorem parent?_row (hind : ∀ o ∈ os, o.indent = ind o.row) {i : Nat} {o : Opening}
    (ho : os[i]? = some o) :
    (o.parent? (os.take i)).map Opening.row =
      ((os.map Opening.row).take i).reverse.find? fun r => ind r < ind o.row := by
  have hcongr : ∀ q ∈ (os.take i).reverse,
      decide (q.indent < o.indent) = decide (ind q.row < ind o.row) := by
    intro q hq
    rw [hind q (List.mem_of_mem_take (List.mem_reverse.mp hq)),
      hind o (List.mem_of_getElem? ho)]
  rw [← List.map_take, ← List.map_reverse, List.find?_map, Opening.parent?, ← List.head?_filter,
    List.filter_congr hcongr, List.head?_filter]
  rfl

/-- A forest with the parents that an outline asks for is nested. -/
theorem IsOutline.nestedBy (h : IsOutline os file f) (hind : ∀ o ∈ os, o.indent = ind o.row) :
    Forest.NestedBy ind f := by
  have hleaf := labels_iff.mp h.labels
  have hrow := rows_of_leaves hleaf
  have hlen : (Forest.lineages f).length = os.length := by
    simpa [Forest.lineages_length] using congrArg List.length hleaf
  refine (Forest.nestedBy_of_nearest none [] (ascending_iff.mp h.ascending) (by simp) ?_).1
  apply List.ext_getElem?
  intro i
  rw [List.getElem?_map, Forest.nearestRows_getElem?, hrow, List.getElem?_map]
  cases ho : os[i]? with
  | none => rw [List.getElem?_eq_none (hlen ▸ List.getElem?_eq_none_iff.mp ho)]; rfl
  | some o =>
    have hlabel := congrArg (·[i]?) h.labels
    simp only [List.getElem?_map, ho, Option.map_some] at hlabel
    obtain ⟨⟨p, n⟩, hp, -⟩ := Option.map_eq_some_iff.mp hlabel
    obtain ⟨c, hc, -, -, hparent⟩ := Forest.lineage_of_walk hp
    have hup := h.parentAt_row ho hp
    rw [hparent, parent?_row hind ho] at hup
    simp only [hc, Option.map_some, Forest.parentRow, hup, Option.or_none, List.append_nil]

end

/-! ## Every text has its outline -/

/-- A parse succeeds on every text, and its forest is the one outline of the openings. -/
theorem parse_standard_outline (text file : String) :
    ∃ roots, parse .standard text file = .ok roots ∧ IsOutline (openings text) file roots ∧
      ∀ other, IsOutline (openings text) file other → other = roots := by
  obtain ⟨hnested, hleaf⟩ := outline_nestedBy text file
  refine ⟨_, parse_standard text file,
    isOutline_of_nestedBy hnested hleaf (fun _ => indent_of_mem_openings) (openings_pairwise text),
    fun other hother => ?_⟩
  have hind : ∀ o ∈ openings text, o.indent = rowIndent text o.row := fun _ =>
    indent_of_mem_openings
  exact ((Forest.ofIndented_eq_iff (carry_entries text file) (leaf_entries _ file)).mpr
    ⟨hother.nestedBy hind, entries_of_leaves (labels_iff.mp hother.labels) hind⟩).symm

end SpecSkeleton
