/-!
# Ranges of code points

A character class of Unicode is kept as an ascending list of ranges, both ends included.
-/

namespace Tagboard.Text

/-- A range of code points, both ends included. -/
abbrev CodeRange := Nat × Nat

/-- Whether one of the ranges holds the code point of a character. -/
def inRanges (ranges : List CodeRange) (c : Char) : Bool :=
  ranges.any fun (first, last) => first ≤ c.toNat && c.toNat ≤ last

end Tagboard.Text
