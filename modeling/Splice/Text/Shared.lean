import Splice.Text

namespace Splice.Text

/-!
# What two texts share

The common start, the common end, and the overlap of the end of one text with the
start of another.
-/

/-- The longest text that both texts start with. -/
def commonPrefix (left right : Text) : Text :=
  ((left.zip right).takeWhile fun pair => pair.1 == pair.2).map Prod.fst

/-- The longest text that both texts end with. -/
def commonSuffix (left right : Text) : Text :=
  (commonPrefix left.reverse right.reverse).reverse

/-- The text without its last code points. -/
def dropEnd {α : Type} (text : Text α) (count : Nat) : Text α :=
  text.take (text.length - count)

/-- The length of the longest end of `left` that `right` starts with. -/
def overlap : Text → Text → Nat
  | [], _ => 0
  | c :: rest, right =>
      if (c :: rest).isPrefixOf right then
        (c :: rest).length
      else
        overlap rest right

/-- A text starts with its common start with another text. -/
theorem commonPrefix_append_drop_left (left right : Text) :
    commonPrefix left right ++ left.drop (commonPrefix left right).length = left := by
  induction left generalizing right with
  | nil =>
      simp [commonPrefix]
  | cons x xs inductionHypothesis =>
      cases right with
      | nil =>
          simp [commonPrefix]
      | cons y ys =>
          have tail := inductionHypothesis ys
          unfold commonPrefix at tail ⊢
          by_cases same : x = y <;> simp_all

/-- The common start does not depend on the order of the two texts. -/
theorem commonPrefix_comm (left right : Text) :
    commonPrefix left right = commonPrefix right left := by
  induction left generalizing right with
  | nil =>
      simp [commonPrefix]
  | cons x xs inductionHypothesis =>
      cases right with
      | nil =>
          simp [commonPrefix]
      | cons y ys =>
          have tail := inductionHypothesis ys
          unfold commonPrefix at tail ⊢
          by_cases same : x = y
          · subst same
            simp_all
          · have different : y ≠ x := fun equal => same equal.symm
            simp [same, different]

/-- The other text starts with the common start as well. -/
theorem commonPrefix_append_drop_right (left right : Text) :
    commonPrefix left right ++ right.drop (commonPrefix left right).length = right := by
  rw [commonPrefix_comm]
  exact commonPrefix_append_drop_left right left

/-- A text ends with its common end with another text. -/
theorem dropEnd_append_commonSuffix_left (left right : Text) :
    dropEnd left (commonSuffix left right).length ++ commonSuffix left right = left := by
  have reversed := congrArg List.reverse (commonPrefix_append_drop_left left.reverse right.reverse)
  rw [List.reverse_append, List.reverse_reverse, List.drop_reverse, List.reverse_reverse]
    at reversed
  simpa [dropEnd, commonSuffix] using reversed

/-- The other text ends with the common end as well. -/
theorem dropEnd_append_commonSuffix_right (left right : Text) :
    dropEnd right (commonSuffix left right).length ++ commonSuffix left right = right := by
  have reversed := congrArg List.reverse (commonPrefix_append_drop_right left.reverse right.reverse)
  rw [List.reverse_append, List.reverse_reverse, List.drop_reverse, List.reverse_reverse]
    at reversed
  simpa [dropEnd, commonSuffix] using reversed

end Splice.Text
