/-!
# Ranges of characters

A property of characters is given by the ranges of code points that have it.
-/

namespace StaticServer

namespace Target

namespace Host

/-- Ranges of code points, each given by its first and its last one. -/
abbrev CodeRanges := List (Nat × Nat)

/-- A character in one of the ranges. -/
def CodeRanges.holds (ranges : CodeRanges) (c : Char) : Bool :=
  ranges.any fun (first, last) => first ≤ c.toNat && c.toNat ≤ last

end Host

end Target

end StaticServer
