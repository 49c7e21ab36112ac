import SpecSkeleton.Proofs.Text.Rows
import SpecSkeleton.Text.Blank

/-!
# Shown lines

A row without line breaks is shown as one line, and so is each row before a line feed. A row that is
empty is shown only if a line feed ends it. So where rows have no line breaks but line feeds, shown
lines and rows agree but for an empty row at the end (`getElem?_shownLines`).
-/

namespace SpecSkeleton.Text

/-- Holds nothing that a terminal breaks a line at. -/
def Unbroken (cs : List Char) : Prop :=
  ∀ c ∈ cs, isLineBreak c = false

theorem isBlank_of_isLineBreak {c : Char} (h : isLineBreak c = true) : isBlank c = true := by
  simp only [isLineBreak, List.contains_iff_mem, List.mem_cons, List.not_mem_nil, or_false] at h
  simp only [isBlank, CharRanges.has_iff, blankRanges, List.mem_cons, List.not_mem_nil, or_false,
    exists_eq_or_imp, exists_eq_left]
  omega

theorem unbroken_of_solid {cs : List Char} (h : ∀ c ∈ cs, isBlank c = false) : Unbroken cs := by
  intro c hc
  cases hbreak : isLineBreak c with
  | false => rfl
  | true =>
    have hblank := h c hc
    rw [isBlank_of_isLineBreak hbreak] at hblank
    cases hblank

theorem shownLines_cons {c : Char} (h : isLineBreak c = false) (cs : List Char) :
    shownLines (c :: cs) =
      match shownLines cs with
      | [] => [[c]]
      | l :: ls => (c :: l) :: ls := by
  rw [shownLines]
  · rw [h]
    rfl
  · rintro ds rfl -
    cases h

theorem shownLines_feed (cs : List Char) : shownLines ('\n' :: cs) = [] :: shownLines cs := by
  rw [shownLines]
  · rfl
  · rintro ds h
    cases h

/-- A row that a line feed ends is shown as it is. -/
theorem shownLines_append {row : List Char} (h : Unbroken row) (rest : List Char) :
    shownLines (row ++ '\n' :: rest) = row :: shownLines rest := by
  induction row with
  | nil => exact shownLines_feed rest
  | cons c cs ih =>
    rw [List.cons_append, shownLines_cons (h c List.mem_cons_self),
      ih fun d hd => h d (List.mem_cons_of_mem c hd)]

/-- The last row is shown if it is not empty. -/
theorem shownLines_of_unbroken {row : List Char} (h : Unbroken row) (hne : row ≠ []) :
    shownLines row = [row] := by
  induction row with
  | nil => exact absurd rfl hne
  | cons c cs ih =>
    rw [shownLines_cons (h c List.mem_cons_self)]
    cases cs with
    | nil => rfl
    | cons d ds => rw [ih (fun e he => h e (List.mem_cons_of_mem c he)) (by simp)]

/-- No shown line has a line break. -/
theorem unbroken_of_mem_shownLines {cs line : List Char} (h : line ∈ shownLines cs) :
    Unbroken line := by
  induction cs using shownLines.induct generalizing line with
  | case1 => rw [shownLines] at h; cases h
  | case2 cs ih =>
    rw [shownLines] at h
    rcases List.mem_cons.mp h with rfl | h
    · exact nofun
    · exact ih h
  | case3 c cs hpair hbreak ih =>
    rw [shownLines, if_pos hbreak] at h
    · rcases List.mem_cons.mp h with rfl | h
      · exact nofun
      · exact ih h
    · exact hpair
  | case4 c cs hpair hbreak hnil ih =>
    have hc : isLineBreak c = false := by simpa using hbreak
    rw [shownLines_cons hc, hnil] at h
    rw [List.mem_singleton.mp h]
    simpa [Unbroken] using hc
  | case5 c cs hpair hbreak l ls hcons ih =>
    have hc : isLineBreak c = false := by simpa using hbreak
    rw [shownLines_cons hc, hcons] at h
    rw [hcons] at ih
    rcases List.mem_cons.mp h with rfl | h
    · exact List.forall_mem_cons.mpr ⟨hc, ih List.mem_cons_self⟩
    · exact ih (List.mem_cons_of_mem l h)

/-- The rows that hold no line breaks are shown as they are; an empty one at the end is not. -/
theorem getElem?_shownLines {n : Nat} {cs : List Char}
    (h : ∀ row ∈ (rows cs).take n, Unbroken row) {i : Nat} (hi : i < n) :
    (shownLines cs)[i]? = (rows cs)[i]? ∨
      (shownLines cs)[i]? = none ∧ (rows cs)[i]? = some [] := by
  induction n generalizing cs i with
  | zero => cases hi
  | succ n ih =>
    by_cases hfeed : '\n' ∈ cs
    · obtain ⟨row, rest, rfl, hrow⟩ := List.eq_append_cons_of_mem hfeed
      have hrows : rows (row ++ '\n' :: rest) = row :: rows rest := by
        rw [rows_append, rows, pieces_of_not_mem hrow]
        rfl
      rw [hrows, List.take_succ_cons, List.forall_mem_cons] at h
      rw [hrows, shownLines_append h.1]
      cases i with
      | zero => exact .inl rfl
      | succ i => exact ih h.2 (Nat.lt_of_succ_lt_succ hi)
    · have hrows : rows cs = [cs] := pieces_of_not_mem hfeed
      rw [hrows] at h ⊢
      by_cases hne : cs = []
      · subst hne
        cases i with
        | zero => exact .inr ⟨rfl, rfl⟩
        | succ i => exact .inl rfl
      · rw [shownLines_of_unbroken (h cs (by simp)) hne]
        exact .inl rfl

end SpecSkeleton.Text
