/-!
# Ranges of code points

A character class is a list of inclusive ranges in increasing order. Membership is a scan of
that list, so a law about a class is a check of its finitely many bounds.
-/

namespace GoBindings.Unicode

/-- The code points from the first component to the second, both included. -/
abbrev Range := Nat × Nat

/-- Membership of a character in one range. -/
def Range.contains (range : Range) (c : Char) : Bool :=
  range.1 ≤ c.toNat && c.toNat ≤ range.2

/-- Membership of a character in a class given by its ranges. -/
def inRanges (ranges : List Range) (c : Char) : Bool :=
  ranges.any (Range.contains · c)

/-- A class holds a character exactly when one of its ranges spans it. -/
theorem inRanges_iff (ranges : List Range) (c : Char) :
    inRanges ranges c = true ↔ ∃ range ∈ ranges, range.1 ≤ c.toNat ∧ c.toNat ≤ range.2 := by
  simp [inRanges, Range.contains]

end GoBindings.Unicode
