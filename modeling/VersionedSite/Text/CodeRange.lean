/-!
# Ranges of code points

A property of characters is a list of ranges of code points, each with its first and last one.
-/

namespace VersionedSite.Text

/-- Whether one of the ranges has the code point. -/
def inRanges (ranges : List (Nat × Nat)) (n : Nat) : Bool :=
  ranges.any fun (first, last) ↦ first ≤ n && n ≤ last

end VersionedSite.Text
