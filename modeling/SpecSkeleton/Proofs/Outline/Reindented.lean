import Mathlib.Data.List.DropRight
import SpecSkeleton.Proofs.Outline.Openings
import SpecSkeleton.Proofs.Text.Rows

/-!
# Rows indented anew

`reindent` gives each row that opens an element a margin of its own in place of its leading blanks
and leaves every other row as it is. The openings of the new text are those of the old one with the
widths of their margins (`openings_reindent`), so `parse_reindent_iff` can say for which margins the
outline stays the same: just those under which it is still nested.
-/

namespace SpecSkeleton

open Text

/-! ## Margins -/

/-- Blanks that a row may start with. -/
structure Margin where
  chars : List Char
  blank : ∀ c ∈ chars, isBlank c = true
  no_feed : '\n' ∉ chars

namespace Margin

def width (m : Margin) : Nat :=
  m.chars.length

/-- A row with the margin in place of its leading blanks. -/
def before (m : Margin) (row : List Char) : List Char :=
  m.chars ++ row.dropWhile isBlank

end Margin

/-- The rows that open an element start with the margins of their numbers. -/
def reindentRow (margins : Nat → Margin) (row : List Char) (index : Nat) : List Char :=
  if (Opening.ofRow? row index).isSome then (margins index).before row else row

def reindent (margins : Nat → Margin) (text : String) : String :=
  String.ofList <| ['\n'].intercalate <|
    (rows text.toList).zipIdx.map fun (row, index) => reindentRow margins row index

/-! ## The openings of rows indented anew -/

theorem Margin.takeWhile_before (m : Margin) (row : List Char) :
    (m.before row).takeWhile isBlank = m.chars := by
  have hrest : (row.dropWhile isBlank).takeWhile isBlank = [] :=
    List.takeWhile_eq_nil_iff.mpr (List.dropWhile_get_zero_not isBlank row)
  rw [before, List.takeWhile_append_of_pos m.blank, hrest, List.append_nil]

theorem Margin.dropWhile_before (m : Margin) (row : List Char) :
    (m.before row).dropWhile isBlank = row.dropWhile isBlank := by
  rw [before, List.dropWhile_append_of_pos m.blank, List.dropWhile_idempotent]

theorem Margin.indentation_before (m : Margin) (row : List Char) :
    indentation (m.before row) = m.width := by
  rw [indentation, m.takeWhile_before, width]

/-- The opening of a row under another margin. -/
def Opening.under (margins : Nat → Margin) (o : Opening) : Opening :=
  { o with indent := (margins o.row).width }

/-- All but the indentation of an opening is read behind the leading blanks. -/
theorem Opening.ofRow?_before (m : Margin) (row : List Char) (index : Nat) :
    Opening.ofRow? (m.before row) index =
      (Opening.ofRow? row index).map fun o => { o with indent := m.width } := by
  unfold Opening.ofRow? KeywordLine.ofRow?
  rw [m.dropWhile_before, m.indentation_before]
  cases keywordAt? (dropReceiver (row.dropWhile isBlank)) with
  | none => rfl
  | some x =>
    cases hnaming : namingPart? x.2 with
    | none => simp [hnaming]
    | some naming =>
      simp only [Option.bind_eq_bind, Option.bind_some, hnaming, Option.pure_def,
        KeywordLine.kind?]
      cases Kind.ofLetters? (x.1.map Char.toLower) <;> rfl

theorem Opening.ofRow?_reindentRow (margins : Nat → Margin) (row : List Char) (index : Nat) :
    Opening.ofRow? (reindentRow margins row index) index =
      (Opening.ofRow? row index).map (Opening.under margins) := by
  unfold reindentRow
  cases h : Opening.ofRow? row index with
  | none => simp [h]
  | some o =>
    have hrow : o.row = index := (Opening.ofRow?_eq_some h).1
    rw [Option.isSome_some, if_pos rfl, Opening.ofRow?_before, h, Option.map_some, Option.map_some,
      Opening.under, hrow]

theorem not_mem_reindentRow (margins : Nat → Margin) {row : List Char} (h : '\n' ∉ row)
    (index : Nat) : '\n' ∉ reindentRow margins row index := by
  unfold reindentRow
  split
  · intro hm
    rcases List.mem_append.mp hm with hm | hm
    · exact (margins index).no_feed hm
    · exact h ((List.dropWhile_sublist _).subset hm)
  · exact h

theorem zipIdx_map_zipIdx {α β : Type} (f : α × Nat → β) (l : List α) :
    (l.zipIdx.map f).zipIdx = l.zipIdx.map fun x => (f x, x.2) := by
  apply List.ext_getElem?
  intro i
  rcases h : l[i]? with _ | a
  · simp [h]
  · simp [h]

theorem rows_reindent (margins : Nat → Margin) (text : String) :
    rows (reindent margins text).toList =
      (rows text.toList).zipIdx.map fun (row, index) => reindentRow margins row index := by
  rw [reindent, String.toList_ofList]
  apply rows_intercalate
  · have hne : rows text.toList ≠ [] := pieces_ne_nil '\n' text.toList
    simpa using hne
  · intro r hr
    obtain ⟨⟨row, index⟩, hrow, rfl⟩ := List.mem_map.mp hr
    exact not_mem_reindentRow margins (not_mem_of_mem_rows (List.fst_mem_of_mem_zipIdx hrow)) index

theorem openings_reindent (margins : Nat → Margin) (text : String) :
    openings (reindent margins text) = (openings text).map (Opening.under margins) := by
  unfold openings
  rw [rows_reindent, zipIdx_map_zipIdx, List.filterMap_map, List.map_filterMap]
  congr
  funext x
  exact Opening.ofRow?_reindentRow margins x.1 x.2

/-! ## Forests that stay nested -/

namespace Forest

variable {f : List Node}

/-- A forest is nested by twice the depths of its nodes. -/
theorem nestedBy_of_depth (ind : Nat → Nat) {base : IndexPath} {k : Nat}
    (h : ∀ e ∈ walkSiblings base k f, ind e.2.row = 2 * (e.1.length - 1)) :
    NestedBy ind f ∧ ∀ r ∈ f, ind r.row = 2 * base.length := by
  induction f using siblings_induct generalizing base k with
  | nil => exact ⟨trivial, by simp⟩
  | cons n rest ihc ihr =>
    simp only [walkSiblings_cons, List.mem_cons, List.mem_append] at h
    have hn : ind n.row = 2 * base.length := by
      have := h (base ++ [(k : Int)], n) (.inl rfl)
      simpa using this
    obtain ⟨hchildren, hdeep⟩ := ihc fun e he => h e (.inr (.inl he))
    obtain ⟨hrest, hsame⟩ := ihr fun e he => h e (.inr (.inr he))
    refine ⟨nestedBy_cons.mpr ⟨?_, hchildren, ?_, hrest⟩, ?_⟩
    · intro c hc
      have := hdeep c hc
      simp only [List.length_append, List.length_singleton] at this
      omega
    · intro m hm
      have := hsame m (List.mem_of_mem_head? hm)
      omega
    · intro r hr
      rcases List.mem_cons.mp hr with rfl | hr
      · exact hn
      · exact hsame r hr

end Forest

/-! ## The outline of a text indented anew -/

/-- A parse of the new text gives a forest just if that is nested and lists the old openings. -/
theorem parse_reindent_eq_ok_iff (margins : Nat → Margin) {text file : String} {roots : Forest}
    (hleaf : roots.nodes.map Node.leaf = (openings text).map (Opening.leaf file)) :
    let ind := fun row => (margins row).width
    parse .standard (reindent margins text) file = .ok roots ↔
      Forest.NestedBy ind roots := by
  intro ind
  have hind : ∀ o ∈ (openings text).map (Opening.under margins), o.indent = ind o.row := by
    intro o ho
    obtain ⟨q, -, rfl⟩ := List.mem_map.mp ho
    rfl
  have hleaf' : roots.nodes.map Node.leaf =
      ((openings text).map (Opening.under margins)).map (Opening.leaf file) := by
    rw [hleaf, List.map_map]
    rfl
  have hcarry : Forest.Carry ind
      (((openings text).map (Opening.under margins)).map (Opening.entry file)) := by
    intro e he
    obtain ⟨o, ho, rfl⟩ := List.mem_map.mp he
    exact hind o ho
  have hentries := entries_of_leaves hleaf' hind
  have hiff := Forest.ofIndented_eq_iff (f := roots) hcarry (leaf_entries _ file)
  rw [parse_standard, openings_reindent]
  constructor
  · intro h
    exact (hiff.mp (ParseResult.ok.inj h)).1
  · intro h
    rw [hiff.mpr ⟨h, hentries⟩]

/-- A text whose openings get other margins keeps its outline just if, under their widths, every
child is indented more than its parent and no node more than the sibling before it. So it does if
all openings are shifted alike, and if each is indented by twice its depth. -/
theorem parse_reindent_iff (margins : Nat → Margin) (text file : String) :
    ∃ roots, parse .standard text file = .ok roots ∧
      (parse .standard (reindent margins text) file = .ok roots ↔
        Forest.NestedBy (fun row => (margins row).width) roots) ∧
      (∀ shift : Int, (∀ o ∈ openings text, ((margins o.row).width : Int) = o.indent + shift) →
        parse .standard (reindent margins text) file = .ok roots) ∧
      ((∀ e ∈ roots.walk [], (margins e.2.row).width = 2 * (e.1.length - 1)) →
        parse .standard (reindent margins text) file = .ok roots) := by
  obtain ⟨hnested, hleaf⟩ := outline_nestedBy text file
  have hiff := parse_reindent_eq_ok_iff margins hleaf
  refine ⟨_, parse_standard text file, hiff, ?_, ?_⟩
  · intro shift hshift
    refine hiff.mpr (hnested.of_order ?_)
    have hwidth : ∀ n ∈ Forest.nodes (Forest.ofIndented ((openings text).map (Opening.entry file))),
        ((margins n.row).width : Int) = rowIndent text n.row + shift := by
      intro n hn
      obtain ⟨o, ho, hrow⟩ := exists_opening hleaf hn
      rw [← hrow, ← indent_of_mem_openings ho]
      exact hshift o ho
    intro a ha b hb
    have := hwidth a ha
    have := hwidth b hb
    omega
  · intro hdepth
    unfold Forest.walk at hdepth
    exact hiff.mpr (Forest.nestedBy_of_depth (fun row => (margins row).width) hdepth).1

/-- Three openings that are moved one blank to the left, where each is indented by twice its depth.
-/
theorem parse_reindent_iff_moved_left :
    ∃ margins : Nat → Margin,
      let text := " describe 'a'\n\u3000\t\tit 'b'\n  # it 'c'\n\tlet :d"
      reindent margins text = "describe 'a'\n\u2028\rit 'b'\n  # it 'c'\nlet :d" ∧
        (∀ o ∈ openings text, ((margins o.row).width : Int) = o.indent + (-1)) ∧
        ∃ roots, parse .standard text "a_spec.rb" = .ok roots ∧
          Forest.NestedBy (fun row => (margins row).width) roots ∧
          (∀ e ∈ roots.walk [], (margins e.2.row).width = 2 * (e.1.length - 1)) ∧
          parse .standard (reindent margins text) "a_spec.rb" = .ok roots := by
  let none : Margin := ⟨[], List.forall_mem_nil _, by decide⟩
  let two : Margin := ⟨['\u2028', '\r'], List.all_eq_true.mp (by decide), by decide⟩
  let margins : Nat → Margin := fun row => if row = 1 then two else none
  let text := " describe 'a'\n\u3000\t\tit 'b'\n  # it 'c'\n\tlet :d"
  have hshift : ∀ o ∈ openings text, ((margins o.row).width : Int) = o.indent + (-1) := by
    decide +kernel
  obtain ⟨roots, hparse, hiff, hshifted, hdeep⟩ := parse_reindent_iff margins text "a_spec.rb"
  have hdepth : ∀ e ∈ roots.walk [], (margins e.2.row).width = 2 * (e.1.length - 1) := by
    rw [eq_of_parse hparse]
    decide +kernel
  exact ⟨margins, by decide +kernel, hshift, roots, hparse, hiff.mp (hshifted (-1) hshift), hdepth,
    hdeep hdepth⟩

end SpecSkeleton
