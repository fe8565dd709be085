import Splice.Text

namespace Splice

/-!
# Cutting two texts at a common stretch

Two texts are compared piecewise: a cut names a stretch that both hold, perhaps an
empty one, and leaves the parts on its left and on its right to be compared.  A cut
is made from positions that a search proposes, and is made only where the stretches
agree and each side is shorter than the whole, so no search has to be trusted.
-/

/-- Two texts around a stretch that both hold. -/
structure Cut (source target : Text) where
  sourceLeft : Text
  sourceRight : Text
  targetLeft : Text
  targetRight : Text
  common : Text
  source_eq : sourceLeft ++ common ++ sourceRight = source
  target_eq : targetLeft ++ common ++ targetRight = target
  left_shorter :
    sourceLeft.length + targetLeft.length < source.length + target.length
  right_shorter :
    sourceRight.length + targetRight.length < source.length + target.length

/-- Where a search proposes to cut: two positions and the length of the common stretch. -/
structure Stretch where
  source : Nat
  target : Nat
  length : Nat
  deriving Repr, DecidableEq

namespace Stretch

/-- The same stretch for the texts in exchanged roles. -/
def swap (stretch : Stretch) : Stretch where
  source := stretch.target
  target := stretch.source
  length := stretch.length

/-- A text is its parts before, in and behind a range. -/
theorem take_append_take_append_drop
    (text : Text)
    (offset length : Nat) :
    text.take offset ++ (text.drop offset).take length ++ text.drop (offset + length) =
      text := by
  rw [List.append_assoc, ← List.drop_drop, List.take_append_drop,
    List.take_append_drop]

/-- The cut at a stretch, if both texts hold it there and both sides are shorter. -/
def cut?
    (stretch : Stretch)
    (source target : Text) :
    Option (Cut source target) :=
  let common := (source.drop stretch.source).take stretch.length
  let sourceStop := stretch.source + stretch.length
  let targetStop := stretch.target + stretch.length
  if agree : (target.drop stretch.target).take stretch.length = common then
    if left :
        (source.take stretch.source).length + (target.take stretch.target).length <
          source.length + target.length then
      if right :
          (source.drop sourceStop).length + (target.drop targetStop).length <
            source.length + target.length then
        some
          { sourceLeft := source.take stretch.source
            sourceRight := source.drop sourceStop
            targetLeft := target.take stretch.target
            targetRight := target.drop targetStop
            common := common
            source_eq := take_append_take_append_drop source _ _
            target_eq := by
              rw [← agree]
              exact take_append_take_append_drop target _ _
            left_shorter := left
            right_shorter := right }
      else
        none
    else
      none
  else
    none

end Stretch

end Splice
