import SpecSkeleton.Proofs.Text.Trim
import SpecSkeleton.Text.Lower

/-!
# Texts of small letters

Lowering leaves a text of plain small letters as it is.
-/

namespace SpecSkeleton.Text

def IsSmall (c : Char) : Prop :=
  'a' ≤ c ∧ c ≤ 'z'

instance (c : Char) : Decidable (IsSmall c) :=
  inferInstanceAs (Decidable (_ ∧ _))

theorem IsSmall.toNat {c : Char} (h : IsSmall c) : 0x61 ≤ c.toNat ∧ c.toNat ≤ 0x7A :=
  h

theorem IsSmall.isBlank {c : Char} (h : IsSmall c) : Text.isBlank c = false :=
  isBlank_of_graphic (Nat.le_trans (by decide) h.toNat.1) (Nat.le_trans h.toNat.2 (by decide))

/-- No small letter is in a run of letters that are lowered. -/
theorem lowerRuns_apart_small :
    (lowerRuns.all fun (lo, hi, _, _) => hi < 0x61 || 0x7A < lo) = true := by
  decide +kernel

theorem lowered_of_isSmall {c : Char} (h : IsSmall c) : lowered c = [c] := by
  have hrun : lowerRuns.find? (fun (lo, hi, step, _) =>
      lo ≤ c.toNat && c.toNat ≤ hi && (c.toNat - lo) % step == 0) = none := by
    rw [List.find?_eq_none]
    intro run hrun hc
    have hapart := List.all_eq_true.mp lowerRuns_apart_small run hrun
    simp only [Bool.and_eq_true, Bool.or_eq_true, decide_eq_true_eq] at hc hapart
    obtain ⟨hlow, hhigh⟩ := h.toNat
    omega
  have hdotted : c ≠ '\u0130' := by
    rintro rfl
    exact absurd h.2 (by decide)
  rw [lowered, if_neg hdotted, hrun]

theorem lower_of_isSmall {cs : List Char} (h : ∀ c ∈ cs, IsSmall c) : lower cs = cs := by
  -- a letter is lowered with those before it at hand
  have hafter : ∀ before, lowerAfter before cs = cs := by
    induction cs with
    | nil => exact fun _ => rfl
    | cons c cs ih =>
      intro before
      obtain ⟨hc, hcs⟩ := List.forall_mem_cons.mp h
      have hsigma : ¬ (c = '\u03A3' ∧ endsWord before cs) := by
        rintro ⟨rfl, -⟩
        exact absurd hc.2 (by decide)
      rw [lowerAfter, if_neg hsigma, lowered_of_isSmall hc, ih hcs]
      rfl
  exact hafter []

end SpecSkeleton.Text
