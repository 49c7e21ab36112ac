import Mathlib.Data.List.Forall2
import Mathlib.Data.List.GetD
import SpecSkeleton.Command.Scan
import SpecSkeleton.Proofs.Text.Wrap

/-!
# Tables

Each column of a table is as wide as its widest cell asks for. So a cell that is one word is on the
first line of its row, as it is, and the other lines of the row have nothing in its column.
-/

namespace SpecSkeleton.Command

open Text

/-! ## The widths of columns -/

/-- The widths of columns that have taken one more row. -/
def widened (widths : List Nat) (cells : List (List Char)) : List Nat :=
  (List.range (max widths.length cells.length)).map fun i =>
    max (widths.getD i 0) (columnsAsked (cells.getD i []))

theorem length_widened (widths : List Nat) (cells : List (List Char)) :
    (widened widths cells).length = max widths.length cells.length := by
  simp [widened]

theorem getD_widened (widths : List Nat) (cells : List (List Char)) (i : Nat) :
    (widened widths cells).getD i 0 = max (widths.getD i 0) (columnsAsked (cells.getD i [])) := by
  by_cases hi : i < max widths.length cells.length
  · simp [widened, List.getD_eq_getElem?_getD, hi]
  · have hwidths : widths.length ≤ i := by omega
    have hcells : cells.length ≤ i := by omega
    have hlength : (widened widths cells).length ≤ i := by rw [length_widened]; omega
    rw [List.getD_eq_default _ _ hlength, List.getD_eq_default _ _ hwidths,
      List.getD_eq_default _ _ hcells]
    rfl

/-- Widths only grow, and so does their number. -/
theorem le_foldl_widened (rows : List (List (List Char))) (widths : List Nat) :
    widths.length ≤ (rows.foldl widened widths).length ∧
      ∀ i, widths.getD i 0 ≤ (rows.foldl widened widths).getD i 0 := by
  induction rows generalizing widths with
  | nil => exact ⟨le_rfl, fun _ => le_rfl⟩
  | cons cells rows ih =>
    obtain ⟨hlength, hwidths⟩ := ih (widened widths cells)
    constructor
    · rw [length_widened] at hlength
      exact le_trans (le_max_left ..) hlength
    · intro i
      have hi := hwidths i
      rw [getD_widened] at hi
      exact le_trans (le_max_left ..) hi

/-- A row that columns have room for. -/
structure RoomFor (widths : List Nat) (cells : List (List Char)) : Prop where
  length_le : cells.length ≤ widths.length
  asked_le : ∀ i, columnsAsked (cells.getD i []) ≤ widths.getD i 0

theorem roomFor_foldl_widened {rows : List (List (List Char))} {cells : List (List Char)}
    (h : cells ∈ rows) (widths : List Nat) : RoomFor (rows.foldl widened widths) cells := by
  induction rows generalizing widths with
  | nil => cases h
  | cons row rows ih =>
    rcases List.mem_cons.mp h with rfl | h
    · obtain ⟨hlength, hwidths⟩ := le_foldl_widened rows (widened widths cells)
      constructor
      · rw [length_widened] at hlength
        exact le_trans (le_max_right ..) hlength
      · intro i
        have hi := hwidths i
        rw [getD_widened] at hi
        exact le_trans (le_max_right ..) hi
    · exact ih h _

theorem roomFor_columnWidths {rows : List (List (List Char))} {cells : List (List Char)}
    (h : cells ∈ rows) : RoomFor (columnWidths rows) cells :=
  roomFor_foldl_widened h []

/-! ## The lines of a row -/

/-- The cells of a row, each wrapped in its column. -/
def wrapped (widths : List Nat) (cells : List (List Char)) : List (List (List Char)) :=
  cells.zipWith (fun cell n => wrap .ellipsis n cell) widths

theorem RoomFor.tail {n : Nat} {widths : List Nat} {cell : List Char} {cells : List (List Char)}
    (h : RoomFor (n :: widths) (cell :: cells)) : RoomFor widths cells :=
  ⟨Nat.le_of_succ_le_succ h.length_le, fun i => h.asked_le (i + 1)⟩

/-- Where there is room, a word takes one line. -/
theorem wrapped_solid {widths : List Nat} {cells : List (List Char)} (h : RoomFor widths cells) :
    List.Forall₂ (fun cell column => IsSolid cell → column = [cell]) cells
      (wrapped widths cells) := by
  induction cells generalizing widths with
  | nil => exact .nil
  | cons cell cells ih =>
    cases widths with
    | nil => exact absurd h.length_le (Nat.not_succ_le_zero _)
    | cons n widths =>
      refine .cons (fun hsolid => hsolid.wrap_eq _ ?_) (ih h.tail)
      rw [← hsolid.columnsAsked_eq]
      exact h.asked_le 0

/-- How many lines a row has: as many as its highest column. -/
def height (columns : List (List (List Char))) : Nat :=
  columns.foldl (fun n column => max n column.length) 0

theorem le_foldl_max_length (columns : List (List (List Char))) (start : Nat) :
    start ≤ columns.foldl (fun n column => max n column.length) start ∧
      ∀ column ∈ columns,
        column.length ≤ columns.foldl (fun n column => max n column.length) start := by
  induction columns generalizing start with
  | nil => exact ⟨le_rfl, by simp⟩
  | cons column columns ih =>
    obtain ⟨hstart, hcolumns⟩ := ih (max start column.length)
    refine ⟨le_trans (le_max_left ..) hstart, ?_⟩
    rintro other (_ | ⟨_, hother⟩)
    · exact le_trans (le_max_right ..) hstart
    · exact hcolumns other hother

/-- One line of a row. -/
def lineOf (columns : List (List (List Char))) (i : Nat) : List String :=
  columns.map fun column => String.ofList (trim (column.getD i []))

theorem cellLines_eq (widths : List Nat) (cells : List (List Char)) :
    cellLines widths cells =
      (List.range (height (wrapped widths cells))).map (lineOf (wrapped widths cells)) := rfl

/-- The lines of a row that has a word in some cell. -/
theorem cellLines_solid {widths : List Nat} {cells : List (List Char)}
    (h : RoomFor widths cells) (hsome : ∃ cell ∈ cells, IsSolid cell) :
    ∃ first others, cellLines widths cells = first :: others ∧
      List.Forall₂ (fun cell shown => IsSolid cell → shown = String.ofList cell) cells first ∧
      ∀ line ∈ others,
        List.Forall₂ (fun cell shown => IsSolid cell → shown = "") cells line := by
  have hwrapped := wrapped_solid h
  have hheight : 0 < height (wrapped widths cells) := by
    obtain ⟨cell, hcell, hsolid⟩ := hsome
    obtain ⟨i, hi, rfl⟩ := List.mem_iff_getElem.mp hcell
    have hcolumn : i < (wrapped widths cells).length := hwrapped.length_eq ▸ hi
    have heq : (wrapped widths cells)[i] = [cells[i]] := hwrapped.get hi hcolumn hsolid
    have hle := (le_foldl_max_length (wrapped widths cells) 0).2 _ (List.getElem_mem hcolumn)
    rw [heq] at hle
    exact hle
  obtain ⟨n, hn⟩ := Nat.exists_eq_succ_of_ne_zero hheight.ne'
  refine ⟨lineOf (wrapped widths cells) 0,
    (List.range n).map fun i => lineOf (wrapped widths cells) (i + 1), ?_, ?_, ?_⟩
  · rw [cellLines_eq, hn, List.range_succ_eq_map, List.map_cons, List.map_map]
    rfl
  · rw [lineOf, List.forall₂_map_right_iff]
    refine hwrapped.imp fun cell column heq hsolid => ?_
    rw [heq hsolid]
    exact congrArg String.ofList hsolid.trim_eq
  · intro line hline
    obtain ⟨i, -, rfl⟩ := List.mem_map.mp hline
    rw [lineOf, List.forall₂_map_right_iff]
    refine hwrapped.imp fun cell column heq hsolid => ?_
    rw [heq hsolid]
    rfl

end SpecSkeleton.Command
