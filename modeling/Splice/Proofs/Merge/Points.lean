import Splice.Proofs.Merge.Stages

namespace Splice

/-!
# Merging characters as code points

A text of characters is also a text of code points, and so are the texts of edits.  Edits apply
to both alike, and their hulls are the same, so that a batch which applies is merged into the
same edit, whether it is taken as one of characters or as one of code points.
-/

namespace Text

theorem replaceRange_points
    (text replacement : Text)
    (offset length : Nat) :
    text.points.replaceRange offset length replacement.points =
      (text.replaceRange offset length replacement).points := by
  simp only [replaceRange, points, List.map_append, List.map_take, List.map_drop]

theorem apply_points
    {text next : Text}
    {edit : Edit}
    (applied : text.apply edit = .ok next) :
    text.points.apply edit.points = .ok next.points := by
  obtain ⟨fits, rfl⟩ := apply_eq_ok_iff.mp applied
  rw [apply_eq_ok_iff]
  refine ⟨?_, (replaceRange_points text edit.text edit.offset edit.length).symm⟩
  rwa [length_points]

/-- A batch leads to the same text, also if its texts are taken as code points. -/
theorem applyAll_points
    {text result : Text}
    {batch : List Edit}
    (applied : text.applyAll batch = .ok result) :
    text.points.applyAll (batch.map Edit.points) = .ok result.points := by
  induction batch generalizing text with
  | nil =>
      cases applied
      rfl
  | cons edit rest inductionHypothesis =>
      obtain ⟨next, editApplied, restApplied⟩ := applyAll_cons_eq_ok_iff.mp applied
      rw [List.map_cons, applyAll_cons_of_apply (apply_points editApplied)]
      exact inductionHypothesis restApplied

end Text

theorem Hull.ofEdit_points (edit : Edit) : ofEdit edit.points = ofEdit edit := by
  simp only [ofEdit, Edit.points, Edit.stop, Edit.growth, Text.length_points]

theorem Hull.ofBatch_points (batch : List Edit) :
    ofBatch (batch.map Edit.points) = ofBatch batch := by
  induction batch with
  | nil =>
      rfl
  | cons edit rest inductionHypothesis =>
      rw [List.map_cons, ofBatch_cons, ofBatch_cons, ofEdit_points, inductionHypothesis]

section

variable {source result : Text} {batch : List Edit} {merged : Edit}

/-- What stands for a batch of characters stands for it as a batch of code points. -/
theorem Edit.StandsFor.points (stands : merged.StandsFor batch source result) :
    merged.points.StandsFor (batch.map Edit.points) source.points result.points where
  covers := by rw [Hull.ofBatch_points, stands.covers, Hull.ofEdit_points]
  applied := Text.apply_points stands.applied

/-- Both merges make of the code points what a forward merge makes of the characters. -/
theorem merge_points
    {answer : Option Edit}
    (applied : source.applyAll batch = .ok result)
    (returned : mergeForward source batch = .ok answer) :
    mergeForward source.points (batch.map Edit.points) = .ok (answer.map Edit.points) ∧
      mergeBackward (batch.map Edit.points) result.points = .ok (answer.map Edit.points) := by
  by_cases empty : batch = []
  · subst empty
    cases returned
    exact ⟨rfl, rfl⟩
  · obtain ⟨merged, stands⟩ := Edit.StandsFor.exists_of_applyAll empty applied
    obtain rfl : some merged = answer :=
      Except.ok.inj ((stands.mergeForward_eq applied).symm.trans returned)
    exact ⟨stands.points.mergeForward_eq (Text.applyAll_points applied),
      stands.points.mergeBackward_eq⟩

end

end Splice
