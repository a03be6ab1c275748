/-!
# Sets of code points given by ranges

A property of characters is written down as a list of ranges of code points, both ends included.
`Ranges.covers_iff` says what such a list means.
-/

namespace StackProfiler

namespace Text

/-- Ranges of code points, both ends included. -/
abbrev Ranges := List (Nat × Nat)

namespace Ranges

/-- Whether one of the ranges holds the character. -/
def covers (ranges : Ranges) (c : Char) : Bool :=
  ranges.any fun range => range.1 ≤ c.toNat && c.toNat ≤ range.2

/-- A list of ranges covers exactly the characters between the ends of some range. -/
theorem covers_iff {ranges : Ranges} {c : Char} :
    ranges.covers c = true ↔ ∃ range ∈ ranges, range.1 ≤ c.toNat ∧ c.toNat ≤ range.2 := by
  simp [covers]

end Ranges

end Text

end StackProfiler
