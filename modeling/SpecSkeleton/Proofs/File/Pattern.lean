import SpecSkeleton.File.Find
import SpecSkeleton.Proofs.Text.Rows

/-!
# What name patterns accept

`Matches` says of a pattern and a name that the parts of the one divide the other among themselves,
and `accepts_iff` that this is what `accepts` finds out. A text without wildcards matches itself, so
after a star it matches the names that it is a suffix of (`matches_star_literal`).
-/

namespace SpecSkeleton

namespace NamePattern

variable {p : NamePattern} {c : Char} {cs : List Char}

/-- Each star of the pattern stands for some characters of the name, and each test for one. -/
inductive Matches : NamePattern → List Char → Prop where
  | nil : Matches [] []
  | star {p : NamePattern} {cs : List Char} (skipped : List Char) (h : Matches p cs) :
      Matches (.star :: p) (skipped ++ cs)
  | single {t : CharTest} {p : NamePattern} {c : Char} {cs : List Char} (hc : t.holds c = true)
      (h : Matches p cs) : Matches (.single t :: p) (c :: cs)

/-! ## One character of the name -/

theorem acceptedTails_ne_nil (p : NamePattern) (cs : List Char) : acceptedTails p cs ≠ [] := by
  induction p with
  | nil => simp [acceptedTails]
  | cons i p ih =>
    cases i with
    | star =>
      obtain ⟨hit, hits, htails⟩ := List.exists_cons_of_ne_nil ih
      simp [acceptedTails, htails, hitsFromHere]
    | single t => simp [acceptedTails]

theorem acceptedTails_nil (p : NamePattern) : acceptedTails p [] = [accepts p []] := by
  induction p with
  | nil => rfl
  | cons i p ih =>
    cases i with
    | star =>
      rw [accepts, acceptedTails, ih]
      rfl
    | single t => rfl

theorem acceptedTails_cons (p : NamePattern) (c : Char) (cs : List Char) :
    acceptedTails p (c :: cs) = accepts p (c :: cs) :: acceptedTails p cs := by
  induction p with
  | nil => rfl
  | cons i p ih =>
    cases i with
    | star =>
      rw [accepts, acceptedTails, ih]
      rfl
    | single t =>
      obtain ⟨hit, hits, htails⟩ := List.exists_cons_of_ne_nil (acceptedTails_ne_nil p cs)
      rw [accepts, acceptedTails, ih, List.tail_cons, htails, acceptedTails, htails]
      rfl

theorem accepts_star_nil : accepts (.star :: p) [] = accepts p [] := by
  rw [accepts, acceptedTails, acceptedTails_nil]
  exact Bool.or_false _

theorem accepts_star_cons :
    accepts (.star :: p) (c :: cs) = (accepts p (c :: cs) || accepts (.star :: p) cs) := by
  rw [accepts, acceptedTails, acceptedTails_cons]
  rfl

theorem accepts_single_cons {t : CharTest} :
    accepts (.single t :: p) (c :: cs) = (t.holds c && accepts p cs) := by
  rw [accepts, acceptedTails, acceptedTails_cons, List.tail_cons]
  cases cs with
  | nil => rw [acceptedTails_nil]; rfl
  | cons d ds => rw [acceptedTails_cons]; rfl

/-! ## The whole name -/

theorem accepts_iff : accepts p cs = true ↔ Matches p cs := by
  constructor
  · intro h
    induction p generalizing cs with
    | nil =>
      cases cs with
      | nil => exact .nil
      | cons c cs => cases h
    | cons i p ih =>
      cases i with
      | single t =>
        cases cs with
        | nil => cases h
        | cons c cs =>
          rw [accepts_single_cons, Bool.and_eq_true] at h
          exact .single h.1 (ih h.2)
      | star =>
        -- the star takes one more character until the rest accepts what is left
        induction cs with
        | nil =>
          rw [accepts_star_nil] at h
          exact .star [] (ih h)
        | cons c cs ihcs =>
          rw [accepts_star_cons, Bool.or_eq_true] at h
          rcases h with h | h
          · exact .star [] (ih h)
          · cases ihcs h with
            | star skipped hrest => exact .star (c :: skipped) hrest
  · intro h
    induction h with
    | nil => rfl
    | @star p cs skipped _ ih =>
      induction skipped with
      | nil =>
        cases cs with
        | nil => rwa [List.nil_append, accepts_star_nil]
        | cons c cs => rw [List.nil_append, accepts_star_cons, ih, Bool.true_or]
      | cons c skipped ihskipped =>
        rw [List.cons_append, accepts_star_cons, ihskipped, Bool.or_true]
    | single hc _ ih => rw [accepts_single_cons, hc, ih, Bool.and_self]

/-! ## Texts without wildcards -/

/-- The pattern that accepts one name. -/
def literal (cs : List Char) : NamePattern :=
  cs.map fun c => .single (.one c)

theorem matches_literal {ds : List Char} : Matches (literal cs) ds ↔ ds = cs := by
  constructor
  · intro h
    induction cs generalizing ds with
    | nil =>
      cases h
      rfl
    | cons c cs ih =>
      cases h with
      | single hc hrest => rw [ih hrest, eq_of_beq hc]
  · rintro rfl
    induction ds with
    | nil => exact .nil
    | cons d ds ih => exact .single (beq_self_eq_true d) ih

theorem matches_star_literal {ds : List Char} : Matches (.star :: literal cs) ds ↔ cs <:+ ds := by
  constructor
  · intro h
    cases h with
    | star skipped h => exact ⟨skipped, by rw [matches_literal.mp h]⟩
  · rintro ⟨skipped, rfl⟩
    exact .star skipped (matches_literal.mpr rfl)

theorem ofChars_literal (h : PathPattern.isWildcard cs = false) : ofChars cs = literal cs := by
  induction cs with
  | nil => rw [ofChars]; rfl
  | cons c cs ih =>
    simp only [PathPattern.isWildcard, List.any_cons, Bool.or_eq_false_iff, beq_eq_false_iff_ne]
      at h ih
    obtain ⟨⟨⟨hstar, hany⟩, hset⟩, hcs⟩ := h
    rw [ofChars, if_neg hstar, if_neg hany, if_neg hset, ih hcs]
    rfl

end NamePattern

namespace PathPattern

/-- A suffix that stands for itself in a pattern, within one name. -/
structure IsPlainSuffix (cs : List Char) : Prop where
  no_wildcard : isWildcard cs = false
  no_slash : '/' ∉ cs

theorem hasTwoStars_cons {cs : List Char} (h : isWildcard cs = false) (c : Char) :
    hasTwoStars (c :: cs) = false := by
  induction cs generalizing c with
  | nil => simp [hasTwoStars]
  | cons d cs ih =>
    simp only [isWildcard, List.any_cons, Bool.or_eq_false_iff, beq_eq_false_iff_ne] at h ih
    obtain ⟨⟨⟨hstar, -⟩, -⟩, hcs⟩ := h
    have hrest := ih hcs d
    unfold hasTwoStars
    split
    next heq => exact absurd (List.cons.inj (List.cons.inj heq).2).1 hstar
    next heq => rwa [← (List.cons.inj heq).2]
    next => rfl

theorem ofChars?_plain {cs : List Char} (h : IsPlainSuffix cs) :
    ofChars? ('*' :: cs) = some [.accepted (.star :: NamePattern.literal cs)] := by
  obtain ⟨hwildcard, hslash⟩ := h
  have hpieces : Text.pieces '/' ('*' :: cs) = [('*' :: cs)] :=
    Text.pieces_of_not_mem (by simpa using hslash)
  have hstars : ('*' :: cs : List Char) ≠ ['*', '*'] := by
    rintro heq
    rw [(List.cons.inj heq).2] at hwildcard
    cases hwildcard
  have hlast : ('*' :: cs).getLast? ≠ some '/' := by
    intro hlast
    have hmem := List.mem_of_getLast? hlast
    simp [hslash] at hmem
  have hpart : partOf? ('*' :: cs) = some (.accepted (.star :: NamePattern.literal cs)) := by
    rw [partOf?, if_neg hstars, hasTwoStars_cons hwildcard, NamePattern.ofChars, if_pos rfl,
      NamePattern.ofChars_literal hwildcard]
    rfl
  unfold ofChars?
  rw [hpieces, if_neg hlast]
  simp [hpart]

end PathPattern

end SpecSkeleton
