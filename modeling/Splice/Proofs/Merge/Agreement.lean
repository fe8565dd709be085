import Splice.Proofs.Merge.Backward
import Splice.Proofs.Merge.Forward

namespace Splice

/-!
# What merging a batch amounts to

A merged edit covers exactly the hull of its batch, whichever way the batch was merged and
whatever text was read.  So it fits the source exactly if the batch does, both then lead
to the same text, and the two ways of merging give the same edit.
-/

variable {α : Type}

/-- A forward merge returns an edit or is refused, unless the batch is empty. -/
theorem mergeForward_ne_none
    {source : Text α}
    {batch : List (Edit α)}
    (nonempty : batch ≠ []) :
    mergeForward source batch ≠ .ok none := by
  cases batch with
  | nil =>
      exact (nonempty rfl).elim
  | cons first rest =>
      intro returned
      obtain ⟨_, _, _, _, impossible⟩ := mergeForward_cons_eq_ok_iff.mp returned
      cases impossible

/-- A merged edit that fits the source stands for a batch that fits it. -/
theorem applyAll_eq_ok_of_mergeForward
    {source result : Text α}
    {batch : List (Edit α)}
    {merged : Edit α}
    (nonempty : batch ≠ [])
    (returned : mergeForward source batch = .ok (some merged))
    (applied : source.apply merged = .ok result) :
    source.applyAll batch = .ok result := by
  have covers := ofBatch_of_mergeForward returned
  have fits : (Hull.ofEdit merged).stop ≤ source.length :=
    Int.ofNat_le.mpr (Text.apply_eq_ok_iff.mp applied).1
  obtain ⟨other, batchApplied⟩ := (Text.exists_applyAll_iff_of_ofBatch covers).mpr fits
  obtain ⟨merged', returned', applied'⟩ :=
    exists_mergeForward_of_applyAll nonempty batchApplied
  have sameEdit : merged' = merged := by
    simpa using returned'.symm.trans returned
  subst sameEdit
  have sameText : other = result := by
    simpa using applied'.symm.trans applied
  rw [batchApplied, sameText]

/--
Merging a batch forward and applying the merged edit succeeds exactly if applying the
batch does, with the same text.  Where the batch is refused, so is the merge or its edit.
-/
theorem mergeForward_applies_iff_applyAll
    (source : Text α)
    {batch : List (Edit α)}
    (nonempty : batch ≠ []) :
    (∀ result,
        (∃ merged,
            mergeForward source batch = .ok (some merged) ∧
              source.apply merged = .ok result) ↔
          source.applyAll batch = .ok result) ∧
      ∀ error,
        source.applyAll batch = .error error →
          (∃ refusal, mergeForward source batch = .error refusal) ∨
            ∃ merged refusal,
              mergeForward source batch = .ok (some merged) ∧
                source.apply merged = .error refusal := by
  constructor
  · intro result
    constructor
    · rintro ⟨merged, returned, applied⟩
      exact applyAll_eq_ok_of_mergeForward nonempty returned applied
    · intro batchApplied
      exact exists_mergeForward_of_applyAll nonempty batchApplied
  · intro error refused
    cases returned : mergeForward source batch with
    | error refusal =>
        exact Or.inl ⟨refusal, rfl⟩
    | ok answer =>
        cases answer with
        | none =>
            exact (mergeForward_ne_none nonempty returned).elim
        | some merged =>
            cases applied : source.apply merged with
            | error refusal =>
                exact Or.inr ⟨merged, refusal, rfl, applied⟩
            | ok result =>
                have accepted := applyAll_eq_ok_of_mergeForward nonempty returned applied
                cases refused.symm.trans accepted

/-- A batch whose edits lie on, before and after each other merges into one edit. -/
theorem mergeForward_applies_iff_applyAll_three_edits :
    ([⟨2, 1, ['X']⟩, ⟨0, 1, []⟩, ⟨3, 1, ['Y', 'Z']⟩] : List Edit) ≠ [] ∧
      ∃ merged,
        mergeForward ['a', 'b', 'c', 'd', 'e', 'f']
            [⟨2, 1, ['X']⟩, ⟨0, 1, []⟩, ⟨3, 1, ['Y', 'Z']⟩] =
          .ok (some merged) ∧
        Text.apply ['a', 'b', 'c', 'd', 'e', 'f'] merged =
          .ok ['b', 'X', 'd', 'Y', 'Z', 'f'] :=
  ⟨by decide,
    ((mergeForward_applies_iff_applyAll ['a', 'b', 'c', 'd', 'e', 'f'] (by decide)).1
      ['b', 'X', 'd', 'Y', 'Z', 'f']).mpr rfl⟩

/--
Of a batch that applies to the source, the backward merge on the text it leads to is the
forward merge on the source, and the merged edit leads to the same text.
-/
theorem mergeBackward_agrees_with_mergeForward
    {source result : Text α}
    {batch : List (Edit α)}
    (nonempty : batch ≠ [])
    (applied : source.applyAll batch = .ok result) :
    ∃ merged,
      mergeForward source batch = .ok (some merged) ∧
        mergeBackward batch result = .ok (some merged) ∧
        source.apply merged = .ok result := by
  obtain ⟨merged, returned, mergedApplied⟩ :=
    exists_mergeForward_of_applyAll nonempty applied
  have covers := ofBatch_of_mergeForward returned
  exact ⟨merged, returned, mergeBackward_eq_ok_of_apply covers mergedApplied, mergedApplied⟩

/-- An edit that swallows its predecessors is merged alike from both ends. -/
theorem mergeBackward_agrees_with_mergeForward_swallowing :
    ([⟨3, 0, ['X', 'Y']⟩, ⟨1, 5, ['Z']⟩] : List Edit) ≠ [] ∧
      Text.applyAll ['a', 'b', 'c', 'd', 'e'] [⟨3, 0, ['X', 'Y']⟩, ⟨1, 5, ['Z']⟩] =
        .ok ['a', 'Z', 'e'] ∧
      ∃ merged,
        mergeForward ['a', 'b', 'c', 'd', 'e'] [⟨3, 0, ['X', 'Y']⟩, ⟨1, 5, ['Z']⟩] =
          .ok (some merged) ∧
        mergeBackward [⟨3, 0, ['X', 'Y']⟩, ⟨1, 5, ['Z']⟩] ['a', 'Z', 'e'] =
          .ok (some merged) ∧
        Text.apply ['a', 'b', 'c', 'd', 'e'] merged = .ok ['a', 'Z', 'e'] :=
  ⟨by decide, rfl, mergeBackward_agrees_with_mergeForward (by decide) rfl⟩

/--
An edit that a merge returns, from either end and whatever text was read, starts where
the leftmost edit starts, stops where in the text before the batch the edit that reaches
furthest stops, and grows the text as much as all edits together.
-/
theorem merged_edit_is_hull
    {batch : List (Edit α)}
    {merged : Edit α}
    {text : Text α}
    (returned :
      mergeForward text batch = .ok (some merged) ∨
        mergeBackward batch text = .ok (some merged)) :
    (batch.map Edit.offset).min? = some merged.offset ∧
      (Batch.originalStops batch).max? = some (merged.stop : Int) ∧
      merged.growth = Batch.growth batch := by
  have covers : Hull.ofBatch batch = some (.ofEdit merged) := by
    rcases returned with forward | backward
    · exact ofBatch_of_mergeForward forward
    · exact ofBatch_of_mergeBackward backward
  exact Hull.extent_of_ofBatch covers

/-- Also a batch that does not fit the text it is merged with has a hull, from either end. -/
theorem merged_edit_is_hull_beyond_text :
    let batch : List Edit := [⟨4, 2, []⟩, ⟨4, 3, ['X']⟩]
    let unrelated : Text := ['v', 'w', 'x', 'y', 'z']
    (mergeForward [] batch = .ok (some ⟨4, 5, ['X']⟩) ∧
        (batch.map Edit.offset).min? = some 4 ∧
        (Batch.originalStops batch).max? = some 9 ∧
        Edit.growth ⟨4, 5, ['X']⟩ = Batch.growth batch) ∧
      mergeBackward batch unrelated = .ok (some ⟨4, 5, ['z']⟩) ∧
      (batch.map Edit.offset).min? = some 4 ∧
      (Batch.originalStops batch).max? = some 9 ∧
      Edit.growth ⟨4, 5, ['z']⟩ = Batch.growth batch := by
  intro batch unrelated
  have forward : mergeForward [] batch = .ok (some ⟨4, 5, ['X']⟩) := rfl
  have backward : mergeBackward batch unrelated = .ok (some ⟨4, 5, ['z']⟩) := rfl
  exact ⟨⟨forward, merged_edit_is_hull (Or.inl forward)⟩, backward,
    merged_edit_is_hull (Or.inr backward)⟩

end Splice
