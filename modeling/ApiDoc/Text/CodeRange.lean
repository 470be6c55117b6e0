/-
This file tests a code point against a table of ranges, the form in which every character class of
this library is written down.
-/
import ApiDoc.Text.Basic

namespace ApiDoc

/-- A class of code points, written as inclusive ranges of their numbers. -/
abbrev CodeRanges := List (Nat × Nat)

namespace CodeRanges

/-- The number lies in one of the ranges. -/
def covers (ranges : CodeRanges) (value : Nat) : Bool :=
  ranges.any fun (low, high) => low ≤ value && value ≤ high

end CodeRanges

end ApiDoc
