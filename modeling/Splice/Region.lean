import Splice.Field

namespace Splice

/-!
# Regions

A region is a span of a text; a region of length zero is a point.
-/

/-- The span `[offset, offset + length)`, or the point `offset` if the length is zero. -/
structure Region where
  offset : Nat
  length : Nat
  deriving Repr, DecidableEq

namespace Region

def stop (region : Region) : Nat :=
  region.offset + region.length

/--
Spans overlap when they share a position.  A point overlaps a span that holds its
position, so not the span that ends there, and two points overlap when they are the
same.
-/
def overlaps (left right : Region) : Bool :=
  if 0 < right.length then
    if 0 < left.length then
      left.offset < right.stop && right.offset < left.stop
    else
      right.offset ≤ left.offset && left.offset < right.stop
  else if 0 < left.length then
    left.offset ≤ right.offset && right.offset < left.stop
  else
    left.offset == right.offset

/-- An absent region overlaps nothing. -/
def optionOverlaps : Option Region → Option Region → Bool
  | some left, some right => left.overlaps right
  | _, _ => false

/-- The region that the members of an object describe; an absent length is zero. -/
def ofMembers (members : Json.Members) : Except FieldFaults Region :=
  match Field.required Field.count (members.get? "offset".toList),
      Field.optional Field.count 0 (members.get? "length".toList) with
  | .ok offset, .ok length => .ok ⟨offset, length⟩
  | offset, length =>
      .error (Field.faults "offset" offset ++ Field.faults "length" length)

end Region

end Splice
