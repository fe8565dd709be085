namespace Splice

/-!
# Sets of code points

A character class is given by the ranges of code points that it holds, in
ascending order.
-/

/-- Closed ranges of code points, from the least on and apart from each other. -/
abbrev CodePointRanges := List (Nat × Nat)

/-- The code point lies in one of the ranges; the search ends at the first range above it. -/
def CodePointRanges.holds
    (codePoint : Nat) :
    CodePointRanges → Bool
  | [] => false
  | (first, last) :: rest =>
      if codePoint < first then
        false
      else if codePoint ≤ last then
        true
      else
        CodePointRanges.holds codePoint rest

end Splice
