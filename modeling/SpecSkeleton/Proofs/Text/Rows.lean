import SpecSkeleton.Text.Line

/-!
# Rows and line feeds

`rows` undoes writing rows with line feeds between them (`rows_intercalate`), no row has a line feed
(`not_mem_of_mem_rows`), and the rows of two texts with a line feed between them are those of the
first and then those of the second (`rows_append`). A row is part of its text
(`sublist_of_mem_rows`), and there is one more of them than line feeds.
-/

namespace SpecSkeleton.Text

variable {sep : Char}

theorem pushPiece_append (c : Char) {ps : List (List Char)} (h : ps ≠ []) (qs : List (List Char)) :
    pushPiece sep c (ps ++ qs) = pushPiece sep c ps ++ qs := by
  obtain ⟨p, ps, rfl⟩ := List.exists_cons_of_ne_nil h
  unfold pushPiece
  split <;> rfl

theorem pieces_append (sep : Char) (cs ds : List Char) :
    pieces sep (cs ++ sep :: ds) = pieces sep cs ++ pieces sep ds := by
  induction cs with
  | nil =>
    show pushPiece sep sep (pieces sep ds) = [[]] ++ pieces sep ds
    unfold pushPiece
    rw [if_pos rfl]
    rfl
  | cons c cs ih =>
    rw [List.cons_append, pieces_cons, ih, pushPiece_append c (pieces_ne_nil sep cs), pieces_cons]

theorem not_mem_of_mem_pieces {cs p : List Char} (h : p ∈ pieces sep cs) : sep ∉ p := by
  induction cs generalizing p with
  | nil =>
    rw [List.mem_singleton.mp h]
    exact List.not_mem_nil
  | cons c cs ih =>
    obtain ⟨q, qs, hq⟩ := List.exists_cons_of_ne_nil (pieces_ne_nil sep cs)
    rw [hq] at ih
    rw [pieces_cons, hq, pushPiece] at h
    split at h
    · rcases List.mem_cons.mp h with rfl | h
      · exact List.not_mem_nil
      · exact ih h
    · next hc =>
      rcases List.mem_cons.mp h with rfl | h
      · intro hm
        rcases List.mem_cons.mp hm with rfl | hm
        · exact hc rfl
        · exact ih (List.mem_cons_self ..) hm
      · exact ih (List.mem_cons_of_mem _ h)

theorem pieces_of_not_mem {cs : List Char} (h : sep ∉ cs) : pieces sep cs = [cs] := by
  induction cs with
  | nil => rfl
  | cons c cs ih =>
    have hc : c ≠ sep := fun hc => h (hc ▸ List.mem_cons_self ..)
    rw [pieces_cons, ih fun hm => h (List.mem_cons_of_mem _ hm), pushPiece, if_neg hc]

theorem flatten_pieces (sep : Char) (cs : List Char) :
    (pieces sep cs).flatten = cs.filter fun c => c != sep := by
  induction cs with
  | nil => rfl
  | cons c cs ih =>
    obtain ⟨p, ps, hp⟩ := List.exists_cons_of_ne_nil (pieces_ne_nil sep cs)
    rw [hp, List.flatten_cons] at ih
    rw [pieces_cons, hp]
    by_cases hc : c = sep
    · simp [pushPiece, hc, ih]
    · simp [pushPiece, hc, ih]

theorem length_pieces (sep : Char) (cs : List Char) :
    (pieces sep cs).length = cs.count sep + 1 := by
  induction cs with
  | nil => rfl
  | cons c cs ih =>
    obtain ⟨p, ps, hp⟩ := List.exists_cons_of_ne_nil (pieces_ne_nil sep cs)
    rw [hp, List.length_cons] at ih
    rw [pieces_cons, hp, List.count_cons]
    by_cases hc : c = sep
    · simp [pushPiece, hc, ih]
    · simp [pushPiece, hc, ih]

/-! ## Rows -/

theorem rows_append (cs ds : List Char) : rows (cs ++ '\n' :: ds) = rows cs ++ rows ds :=
  pieces_append '\n' cs ds

theorem not_mem_of_mem_rows {cs row : List Char} (h : row ∈ rows cs) : '\n' ∉ row :=
  not_mem_of_mem_pieces h

theorem sublist_of_mem_rows {cs row : List Char} (h : row ∈ rows cs) : row.Sublist cs := by
  have hflat := List.sublist_flatten_of_mem h
  rw [rows, flatten_pieces] at hflat
  exact hflat.trans List.filter_sublist

theorem length_rows_le (cs : List Char) : (rows cs).length ≤ cs.length + 1 := by
  have hcount := List.count_le_length (a := '\n') (l := cs)
  rw [rows, length_pieces]
  omega

theorem rows_intercalate {rs : List (List Char)} (hne : rs ≠ []) (h : ∀ r ∈ rs, '\n' ∉ r) :
    rows (['\n'].intercalate rs) = rs := by
  induction rs with
  | nil => exact absurd rfl hne
  | cons r rs ih =>
    have hr : rows r = [r] := pieces_of_not_mem (h r (List.mem_cons_self ..))
    cases rs with
    | nil => rw [List.intercalate_singleton, hr]
    | cons s rs =>
      have ih := ih (List.cons_ne_nil _ _) fun r hr => h r (List.mem_cons_of_mem _ hr)
      rw [List.intercalate_cons_cons, List.append_assoc, List.singleton_append, rows_append, hr, ih,
        List.singleton_append]

end SpecSkeleton.Text
