/-!
# Character sets given by code point ranges

A property of characters is a list of ranges of code points, both ends included. The tables of this
library follow version 14 of the character database.
-/

namespace SpecSkeleton.Text

abbrev CharRanges := List (Nat × Nat)

def CharRanges.has (ranges : CharRanges) (c : Char) : Bool :=
  ranges.any fun (lo, hi) => lo ≤ c.toNat && c.toNat ≤ hi

theorem CharRanges.has_iff {ranges : CharRanges} {c : Char} :
    ranges.has c = true ↔ ∃ r ∈ ranges, r.1 ≤ c.toNat ∧ c.toNat ≤ r.2 := by
  simp [CharRanges.has]

end SpecSkeleton.Text
