/-!
# Ranges of code points

A character property is given as a list of ranges of code points, ends included.
-/

namespace Scribe

namespace Unicode

/-- Ranges of code points, given by their first and last members. -/
abbrev CodeRanges := List (Nat × Nat)

namespace CodeRanges

/-- Whether a character lies in one of the ranges. -/
def contains (ranges : CodeRanges) (c : Char) : Bool :=
  ranges.any fun (first, last) => decide (first ≤ c.toNat) && decide (c.toNat ≤ last)

theorem contains_iff {ranges : CodeRanges} {c : Char} :
    ranges.contains c ↔ ∃ r ∈ ranges, r.1 ≤ c.toNat ∧ c.toNat ≤ r.2 := by
  simp [contains]

end CodeRanges

end Unicode

end Scribe
