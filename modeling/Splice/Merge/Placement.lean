namespace Splice

/-!
# Where an edit lies beside a window

A merge keeps one window that stands for the edits seen so far.  A further edit
lies after it, before it, or on it; an edit that touches the window lies on it, so
that neighbours are joined without a gap between them.
-/

/-- The place of an edit relative to a window in the same coordinates. -/
inductive Placement where
  | after
  | before
  | overlap
  deriving Repr, DecidableEq

namespace Placement

def name : Placement → String
  | .after => "AFTER"
  | .before => "BEFORE"
  | .overlap => "OVERLAP"

/-- Only a range strictly beyond an end of the window is not on the window. -/
def ofRanges (windowStart windowStop editStart editStop : Int) : Placement :=
  if windowStop < editStart then
    .after
  else if editStop < windowStart then
    .before
  else
    .overlap

/-- After the window lies what starts beyond its end. -/
theorem ofRanges_eq_after_iff
    {windowStart windowStop editStart editStop : Int} :
    ofRanges windowStart windowStop editStart editStop = .after ↔
      windowStop < editStart := by
  grind [ofRanges]

/-- Before the window lies what ends ahead of its start. -/
theorem ofRanges_eq_before_iff
    {windowStart windowStop editStart editStop : Int} :
    ofRanges windowStart windowStop editStart editStop = .before ↔
      editStart ≤ windowStop ∧ editStop < windowStart := by
  grind [ofRanges]

/-- On the window lies what shares a position with it or touches it. -/
theorem ofRanges_eq_overlap_iff
    {windowStart windowStop editStart editStop : Int} :
    ofRanges windowStart windowStop editStart editStop = .overlap ↔
      editStart ≤ windowStop ∧ windowStart ≤ editStop := by
  grind [ofRanges]

end Placement

end Splice
