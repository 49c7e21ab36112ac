import Mathlib.Data.List.TakeWhile
import SpecSkeleton.Text.Blank
import SpecSkeleton.Text.Word

/-!
# Trimmed texts

A text is trimmed when no blank stands at its ends. `trim` leaves such a text, takes nothing from
inside it, and has nothing to take where there are no blanks, as in a word.
-/

namespace SpecSkeleton.Text

/-- No blank at either end. -/
structure Trimmed (cs : List Char) : Prop where
  first : ∀ c ∈ cs.head?, isBlank c = false
  last : ∀ c ∈ cs.getLast?, isBlank c = false

theorem trimStart_first {cs : List Char} {c : Char} (h : c ∈ (trimStart cs).head?) :
    isBlank c = false := by
  have hstop := List.head?_dropWhile_not isBlank cs
  rw [Option.mem_def, trimStart] at h
  rwa [h] at hstop

/-- What is cut off at the end follows what is kept. -/
theorem trimEnd_append (cs : List Char) :
    trimEnd cs ++ (cs.reverse.takeWhile isBlank).reverse = cs := by
  rw [trimEnd, trimStart, ← List.reverse_append, List.takeWhile_append_dropWhile,
    List.reverse_reverse]

theorem trimmed_trim (cs : List Char) : Trimmed (trim cs) := by
  constructor
  · intro c hc
    have hfirst : c ∈ (trimStart cs).head? := by
      rw [← trimEnd_append (trimStart cs), List.head?_append]
      rw [trim, Option.mem_def] at hc
      rw [hc]
      rfl
    exact trimStart_first hfirst
  · intro c hc
    rw [trim, trimEnd, List.getLast?_reverse] at hc
    exact trimStart_first hc

theorem trim_sublist (cs : List Char) : (trim cs).Sublist cs := by
  have hend : ∀ ds : List Char, (trimEnd ds).Sublist ds := by
    intro ds
    have h := (List.dropWhile_sublist (l := ds.reverse) isBlank).reverse
    rwa [List.reverse_reverse] at h
  exact (hend (trimStart cs)).trans (List.dropWhile_sublist isBlank)

/-- Trimming takes nothing but blanks. -/
theorem mem_trim {cs : List Char} {c : Char} (hc : c ∈ cs) (hsolid : isBlank c = false) :
    c ∈ trim cs := by
  have hstart : ∀ ds : List Char, c ∈ ds → c ∈ trimStart ds := by
    intro ds hd
    rw [← List.takeWhile_append_dropWhile (p := isBlank) (l := ds), List.mem_append] at hd
    rcases hd with hblank | hkept
    · rw [List.mem_takeWhile_imp hblank] at hsolid
      cases hsolid
    · exact hkept
  rw [trim, trimEnd, List.mem_reverse]
  exact hstart _ (List.mem_reverse.mpr (hstart cs hc))

theorem trimStart_of_solid {cs : List Char} (h : ∀ c ∈ cs, isBlank c = false) :
    trimStart cs = cs := by
  cases cs with
  | nil => rfl
  | cons c cs =>
    have hc := h c (List.mem_cons_self ..)
    simp [trimStart, hc]

/-- Nothing is cut off a text without blanks. -/
theorem trim_of_solid {cs : List Char} (h : ∀ c ∈ cs, isBlank c = false) : trim cs = cs := by
  have hreverse : ∀ c ∈ cs.reverse, isBlank c = false := fun c hc => h c (List.mem_reverse.mp hc)
  rw [trim, trimStart_of_solid h, trimEnd, trimStart_of_solid hreverse, List.reverse_reverse]

theorem trimmed_of_solid {cs : List Char} (h : ∀ c ∈ cs, isBlank c = false) : Trimmed cs :=
  trim_of_solid h ▸ trimmed_trim cs

/-- No code point lies in both tables. -/
theorem wordRanges_apart_blankRanges :
    (wordRanges.all fun w => blankRanges.all fun b => w.2 < b.1 || b.2 < w.1) = true := by
  decide +kernel

theorem isBlank_of_isWord {c : Char} (h : isWord c = true) : isBlank c = false := by
  rw [isWord, Bool.or_eq_true, beq_iff_eq] at h
  rcases h with rfl | hword
  · decide
  · obtain ⟨w, hw, hwlo, hwhi⟩ := CharRanges.has_iff.mp hword
    by_contra hblank
    obtain ⟨b, hb, hblo, hbhi⟩ := CharRanges.has_iff.mp (Bool.not_eq_false _ ▸ hblank)
    have hapart := List.all_eq_true.mp (List.all_eq_true.mp wordRanges_apart_blankRanges w hw) b hb
    simp only [Bool.or_eq_true, decide_eq_true_eq] at hapart
    omega

/-- No plain character that leaves a mark is a blank. -/
theorem isBlank_of_graphic {c : Char} (hlow : 0x21 ≤ c.toNat) (hhigh : c.toNat ≤ 0x7E) :
    isBlank c = false := by
  rw [← Bool.not_eq_true, isBlank, CharRanges.has_iff]
  simp only [blankRanges, List.mem_cons, List.not_mem_nil, or_false, exists_eq_or_imp,
    exists_eq_left]
  omega

end SpecSkeleton.Text
