import Mathlib.Data.Set.Basic
import Splice.Region

namespace Splice

/-!
# Overlap as a shared position

A span covers its positions, and a point covers the position where it stands, as if it were a
span of length one.  Two regions overlap exactly if they cover a position in common.  So it does
not matter which of the two comes first, nor how far both are moved.
-/

namespace Region

/-- The positions that a region covers; a point covers one. -/
def positions (region : Region) : Set Int :=
  {position | region.offset ≤ position ∧ position < region.offset + max 1 region.length}

/-- One region is another moved by an amount, which is negative for a move to the left. -/
def MovedBy (amount : Int) (moved region : Region) : Prop :=
  (moved.offset : Int) = region.offset + amount ∧ moved.length = region.length

theorem mem_positions_iff {region : Region} {position : Int} :
    position ∈ region.positions ↔
      region.offset ≤ position ∧ position < region.offset + max 1 region.length :=
  Iff.rfl

variable {left right : Region}

/-- Each of two overlapping regions starts in front of where the positions of the other end. -/
theorem overlaps_iff_lt :
    left.overlaps right = true ↔
      left.offset < right.offset + max 1 right.length ∧
        right.offset < left.offset + max 1 left.length := by
  unfold overlaps stop
  by_cases rightSpan : 0 < right.length
  · by_cases leftSpan : 0 < left.length
    · simp only [rightSpan, leftSpan, ↓reduceIte, Bool.and_eq_true, decide_eq_true_eq]
      omega
    · simp only [rightSpan, leftSpan, ↓reduceIte, Bool.and_eq_true, decide_eq_true_eq]
      omega
  · by_cases leftSpan : 0 < left.length
    · simp only [rightSpan, leftSpan, ↓reduceIte, Bool.and_eq_true, decide_eq_true_eq]
      omega
    · simp only [rightSpan, leftSpan, ↓reduceIte, beq_iff_eq]
      omega

/-- Overlapping regions are those that cover a position in common. -/
theorem overlaps_iff_nonempty :
    left.overlaps right = true ↔ (left.positions ∩ right.positions).Nonempty := by
  rw [overlaps_iff_lt]
  constructor
  · rintro ⟨leftStarts, rightStarts⟩
    -- The region that starts last covers its start, and the other one reaches beyond that.
    refine ⟨max left.offset right.offset, ⟨?_, ?_⟩, ⟨?_, ?_⟩⟩ <;> omega
  · rintro ⟨position, ⟨leftStarts, leftReaches⟩, ⟨rightStarts, rightReaches⟩⟩
    omega

theorem overlaps_comm (left right : Region) : left.overlaps right = right.overlaps left := by
  rw [Bool.eq_iff_iff, overlaps_iff_nonempty, overlaps_iff_nonempty, Set.inter_comm]

/-- A moved region covers the moved positions. -/
theorem MovedBy.mem_positions_iff
    {amount : Int}
    {moved region : Region}
    (movedBy : MovedBy amount moved region)
    (position : Int) :
    position + amount ∈ moved.positions ↔ position ∈ region.positions := by
  obtain ⟨offset_eq, length_eq⟩ := movedBy
  rw [Region.mem_positions_iff, Region.mem_positions_iff, offset_eq, length_eq]
  omega

/-- Two regions that are moved alike keep the positions that they cover in common. -/
theorem MovedBy.overlaps_eq
    {amount : Int}
    {movedLeft movedRight : Region}
    (leftMoved : MovedBy amount movedLeft left)
    (rightMoved : MovedBy amount movedRight right) :
    movedLeft.overlaps movedRight = left.overlaps right := by
  rw [Bool.eq_iff_iff, overlaps_iff_nonempty, overlaps_iff_nonempty]
  constructor
  · rintro ⟨position, inLeft, inRight⟩
    obtain ⟨origin, rfl⟩ : ∃ origin, position = origin + amount :=
      ⟨position - amount, (Int.sub_add_cancel position amount).symm⟩
    exact ⟨origin, (leftMoved.mem_positions_iff origin).mp inLeft,
      (rightMoved.mem_positions_iff origin).mp inRight⟩
  · rintro ⟨position, inLeft, inRight⟩
    exact ⟨position + amount, (leftMoved.mem_positions_iff position).mpr inLeft,
      (rightMoved.mem_positions_iff position).mpr inRight⟩

end Region

/--
Two regions overlap exactly if they cover a position in common, where a point covers the position
at its offset.  So overlap holds in either order, and still holds or still fails when both regions
are moved by the same amount.
-/
theorem overlap_is_shared_position (left right : Region) :
    (Region.optionOverlaps (some left) (some right) = true ↔
        (left.positions ∩ right.positions).Nonempty) ∧
      Region.optionOverlaps (some left) (some right) =
        Region.optionOverlaps (some right) (some left) ∧
      ∀ (amount : Int) (movedLeft movedRight : Region),
        Region.MovedBy amount movedLeft left →
          Region.MovedBy amount movedRight right →
            Region.optionOverlaps (some movedLeft) (some movedRight) =
              Region.optionOverlaps (some left) (some right) :=
  ⟨Region.overlaps_iff_nonempty, left.overlaps_comm right,
    fun _ _ _ leftMoved rightMoved => leftMoved.overlaps_eq rightMoved⟩

/-- A point where a span starts overlaps it, and still does where both are moved to the left. -/
theorem overlap_is_shared_position_span_start :
    let point : Region := ⟨3, 0⟩
    let span : Region := ⟨3, 2⟩
    let movedPoint : Region := ⟨0, 0⟩
    let movedSpan : Region := ⟨0, 2⟩
    (point.positions ∩ span.positions).Nonempty ∧
      Region.MovedBy (-3) movedPoint point ∧
      Region.MovedBy (-3) movedSpan span ∧
      Region.optionOverlaps (some movedPoint) (some movedSpan) = true := by
  intro point span movedPoint movedSpan
  obtain ⟨shared, _, moved⟩ := overlap_is_shared_position point span
  have pointMoved : Region.MovedBy (-3) movedPoint point := ⟨by decide, rfl⟩
  have spanMoved : Region.MovedBy (-3) movedSpan span := ⟨by decide, rfl⟩
  have overlapping : Region.optionOverlaps (some point) (some span) = true := by
    decide
  exact ⟨shared.mp overlapping, pointMoved, spanMoved,
    (moved (-3) movedPoint movedSpan pointMoved spanMoved).trans overlapping⟩

/-- A point where a span ends lies behind its positions. -/
example : Region.optionOverlaps (some ⟨5, 0⟩) (some ⟨3, 2⟩) = false := by
  decide

end Splice
