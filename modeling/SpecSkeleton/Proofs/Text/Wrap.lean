import SpecSkeleton.Proofs.Text.Rows
import SpecSkeleton.Proofs.Text.Shown
import SpecSkeleton.Proofs.Text.Trim
import SpecSkeleton.Text.Wrap

/-!
# Words in a row of their own

A text without blanks is one word. It takes one row where there are as many columns as it asks for,
and it asks for no more than its own.
-/

namespace SpecSkeleton.Text

variable {cs : List Char}

/-- A text with something in it and no blanks. -/
structure IsSolid (cs : List Char) : Prop where
  ne_nil : cs ≠ []
  solid : ∀ c ∈ cs, isBlank c = false

namespace IsSolid

theorem of_any (hne : cs ≠ []) (h : cs.any isBlank = false) : IsSolid cs :=
  ⟨hne, by simpa using h⟩

variable (h : IsSolid cs)

include h

theorem not_mem {c : Char} (hc : isBlank c = true) : c ∉ cs := fun hm => by
  rw [h.solid c hm] at hc
  cases hc

theorem trim_eq : trim cs = cs :=
  trim_of_solid h.solid

theorem trimEnd_eq : trimEnd cs = cs := by
  have hreverse : trimStart cs.reverse = cs.reverse :=
    trimStart_of_solid fun c hc => h.solid c (by simpa using hc)
  rw [trimEnd, hreverse, List.reverse_reverse]

theorem rows_eq : rows cs = [cs] :=
  pieces_of_not_mem (h.not_mem (by decide))

theorem expandTabs_eq : expandTabs cs = cs := by
  rw [expandTabs, pieces_of_not_mem (h.not_mem (by decide)), joinAtTabStops]

omit h in
/-- Inside a word the rest of it belongs to it. -/
theorem wordsAfter_inside (word : List Char) (hsolid : ∀ c ∈ cs, isBlank c = false) :
    wordsAfter word .inside cs = [word.reverse ++ cs] := by
  induction cs generalizing word with
  | nil => rw [wordsAfter, List.append_nil]; simp
  | cons c cs ih =>
    rw [wordsAfter, hsolid c List.mem_cons_self, if_neg (by decide), if_neg (by decide),
      ih (c :: word) fun d hd => hsolid d (List.mem_cons_of_mem c hd)]
    simp

theorem words_eq : words cs = [cs] := by
  obtain ⟨c, ds, rfl⟩ := List.exists_cons_of_ne_nil h.ne_nil
  rw [words, wordsAfter, h.solid c List.mem_cons_self, if_neg (by decide), if_neg (by decide),
    wordsAfter_inside [c] fun d hd => h.solid d (List.mem_cons_of_mem c hd)]
  rfl

theorem withoutExcess_eq (n : Nat) : withoutExcess n cs = cs := by
  simp [withoutExcess, h.trimEnd_eq]

/-- A word is in a row of its own where it fits. -/
theorem wrap_eq (o : Overflow) {n : Nat} (hn : columns cs ≤ n) : wrap o n cs = [cs] := by
  have hset : setWords o n [] 0 [cs] = [cs] := by
    rw [setWords, if_pos (by rwa [h.trimEnd_eq, Nat.zero_add]), setWords, List.nil_append]
  rw [wrap, h.rows_eq, List.flatMap_singleton, wrapLine, h.expandTabs_eq, breakLine, h.words_eq]
  simp only
  rw [hset, List.map_singleton, h.withoutExcess_eq, fit.eq_def, if_pos hn]

theorem shownLines_eq : shownLines cs = [cs] :=
  shownLines_of_unbroken (unbroken_of_solid h.solid) h.ne_nil

/-- A word asks for its own columns. -/
theorem columnsAsked_eq : columnsAsked cs = columns cs := by
  rw [columnsAsked, h.shownLines_eq]
  simp

end IsSolid

/-- Digits are no blanks. -/
theorem isBlank_of_isDigit {c : Char} (h : c.isDigit = true) : isBlank c = false := by
  have hdigit := Char.isDigit_iff_toNat.mp h
  exact isBlank_of_graphic (Nat.le_trans (by decide) hdigit.1)
    (Nat.le_trans hdigit.2 (by decide))

end SpecSkeleton.Text
