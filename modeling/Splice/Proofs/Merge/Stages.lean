import Splice.Proofs.Merge.Backward
import Splice.Proofs.Merge.Forward

namespace Splice

/-!
# Merging in stages

A batch that applies may be cut into smaller batches, each of which is merged by itself.
The edits that this gives are a batch as well, and merging them gives what merging the
whole batch gives, wherever it was cut.  What carries this is that an edit is determined
by its hull and by the two texts it leads between, and that hulls may be joined in groups.
-/

variable {α : Type}

/-- The edit covers the hull of the batch and leads between the same two texts. -/
structure Edit.StandsFor
    (merged : Edit α)
    (batch : List (Edit α))
    (source result : Text α) : Prop where
  covers : Hull.ofBatch batch = some (.ofEdit merged)
  applied : source.apply merged = .ok result

namespace Edit.StandsFor

variable {source result : Text α} {batch : List (Edit α)} {merged : Edit α}

/-- A batch that applies has an edit that stands for it. -/
theorem exists_of_applyAll
    (nonempty : batch ≠ [])
    (applied : source.applyAll batch = .ok result) :
    ∃ merged : Edit α, merged.StandsFor batch source result := by
  obtain ⟨merged, returned, mergedApplied⟩ :=
    exists_mergeForward_of_applyAll nonempty applied
  exact ⟨merged, ofBatch_of_mergeForward returned, mergedApplied⟩

theorem mergeBackward_eq
    (stands : merged.StandsFor batch source result) :
    mergeBackward batch result = .ok (some merged) :=
  mergeBackward_eq_ok_of_apply stands.covers stands.applied

/-- Only one edit stands for a batch between two texts. -/
theorem unique
    {other : Edit α}
    (stands : merged.StandsFor batch source result)
    (otherStands : other.StandsFor batch source result) :
    merged = other := by
  simpa using stands.mergeBackward_eq.symm.trans otherStands.mergeBackward_eq

theorem ne_nil (stands : merged.StandsFor batch source result) : batch ≠ [] := by
  intro empty
  have covers := stands.covers
  rw [empty, Hull.ofBatch_nil] at covers
  cases covers

theorem mergeForward_eq
    (stands : merged.StandsFor batch source result)
    (applied : source.applyAll batch = .ok result) :
    mergeForward source batch = .ok (some merged) := by
  obtain ⟨other, returned, otherApplied⟩ :=
    exists_mergeForward_of_applyAll stands.ne_nil applied
  have otherStands : other.StandsFor batch source result :=
    ⟨ofBatch_of_mergeForward returned, otherApplied⟩
  rw [returned, stands.unique otherStands]

end Edit.StandsFor

/-- A way to merge a batch between the text before it and the text behind it. -/
abbrev Merger (α : Type := Char) :=
  (source result : Text α) → List (Edit α) → Except RangeError (Option (Edit α))

namespace Merger

/-- Merging against the text before the batch. -/
def forward : Merger α :=
  fun source _ batch => mergeForward source batch

/-- Merging against the text behind the batch. -/
def backward : Merger α :=
  fun _ result batch => mergeBackward batch result

/-- Every batch in turn is applied and merged into one edit between the texts around it. -/
def each
    (merger : Merger α)
    (source : Text α) :
    List (List (Edit α)) → Except RangeError (List (Edit α))
  | [] => .ok []
  | batch :: rest => do
      let next ← source.applyAll batch
      let merged ← merger source next batch
      let others ← merger.each next rest
      return merged.toList ++ others

/-- Of a batch that applies, the merger gives the edit that stands for it. -/
def Faithful (merger : Merger α) : Prop :=
  ∀ {source result : Text α} {batch : List (Edit α)} {merged : Edit α},
    source.applyAll batch = .ok result →
      merged.StandsFor batch source result →
      merger source result batch = .ok (some merged)

theorem faithful_forward : (forward : Merger α).Faithful :=
  fun applied stands => stands.mergeForward_eq applied

theorem faithful_backward : (backward : Merger α).Faithful :=
  fun _ stands => stands.mergeBackward_eq

variable {merger : Merger α} {source result : Text α} {batches : List (List (Edit α))}

theorem each_cons_eq_ok
    {next : Text α}
    {batch : List (Edit α)}
    {merged : Edit α}
    {others : List (Edit α)}
    (applied : source.applyAll batch = .ok next)
    (returned : merger source next batch = .ok (some merged))
    (rest : merger.each next batches = .ok others) :
    merger.each source (batch :: batches) = .ok (merged :: others) :=
  bind_eq_ok_iff.mpr
    ⟨next, applied, bind_eq_ok_iff.mpr
      ⟨some merged, returned, bind_eq_ok_iff.mpr ⟨others, rest, rfl⟩⟩⟩

/-- The merged batches are a batch with the hull of all edits that leads to the same text. -/
theorem Faithful.exists_each
    (faithful : merger.Faithful)
    (nonempty : ∀ batch ∈ batches, batch ≠ [])
    (applied : source.applyAll batches.flatten = .ok result) :
    ∃ stages,
      merger.each source batches = .ok stages ∧
        stages.length = batches.length ∧
        Hull.ofBatch stages = Hull.ofBatch batches.flatten ∧
        source.applyAll stages = .ok result := by
  induction batches generalizing source with
  | nil =>
      exact ⟨[], rfl, rfl, rfl, applied⟩
  | cons batch rest inductionHypothesis =>
      rw [List.forall_mem_cons] at nonempty
      rw [List.flatten_cons, Text.applyAll_append_eq_ok_iff] at applied
      obtain ⟨next, batchApplied, restApplied⟩ := applied
      obtain ⟨merged, stands⟩ :=
        Edit.StandsFor.exists_of_applyAll nonempty.1 batchApplied
      obtain ⟨others, restRun, sameLength, sameHull, othersApplied⟩ :=
        inductionHypothesis nonempty.2 restApplied
      refine ⟨merged :: others,
        each_cons_eq_ok batchApplied (faithful batchApplied stands) restRun,
        by simp [sameLength], ?_, ?_⟩
      · rw [Hull.ofBatch_cons, sameHull, List.flatten_cons, Hull.ofBatch_append,
          stands.covers]
      · rw [Text.applyAll_cons_of_apply stands.applied, othersApplied]

/--
A faithful merger makes the same edit of the merged batches as of all their edits, and this edit
leads to the same text.
-/
theorem Faithful.exists_merged_stages
    (faithful : merger.Faithful)
    (someBatch : batches ≠ [])
    (nonempty : ∀ batch ∈ batches, batch ≠ [])
    (applied : source.applyAll batches.flatten = .ok result) :
    ∃ stages merged,
      merger.each source batches = .ok stages ∧
        stages.length = batches.length ∧
        merger source result stages = .ok (some merged) ∧
        merger source result batches.flatten = .ok (some merged) ∧
        source.apply merged = .ok result := by
  obtain ⟨stages, run, sameLength, sameHull, stagesApplied⟩ :=
    faithful.exists_each nonempty applied
  have someStage : stages ≠ [] := by
    rw [← List.length_pos_iff, sameLength, List.length_pos_iff]
    exact someBatch
  obtain ⟨merged, stands⟩ :=
    Edit.StandsFor.exists_of_applyAll someStage stagesApplied
  have standsForAll : merged.StandsFor batches.flatten source result :=
    ⟨sameHull ▸ stands.covers, stands.applied⟩
  exact ⟨stages, merged, run, sameLength, faithful stagesApplied stands,
    faithful applied standsForAll, stands.applied⟩

end Merger

/--
However a batch that applies is cut into batches that are not empty: merging each of them
where it applies and then the edits that result gives the edit that merging the whole batch
gives, forward from the text before and backward from the text behind.  This edit has the
effect of the whole batch.
-/
theorem merged_stages_eq_merged_flatten
    {source result : Text α}
    {batches : List (List (Edit α))}
    (someBatch : batches ≠ [])
    (nonempty : ∀ batch ∈ batches, batch ≠ [])
    (applied : source.applyAll batches.flatten = .ok result) :
    batches.foldlM Text.applyAll source = .ok result ∧
      (∃ stages merged,
        Merger.forward.each source batches = .ok stages ∧
          stages.length = batches.length ∧
          mergeForward source stages = .ok (some merged) ∧
          mergeForward source batches.flatten = .ok (some merged) ∧
          source.apply merged = .ok result) ∧
      ∃ stages merged,
        Merger.backward.each source batches = .ok stages ∧
          stages.length = batches.length ∧
          mergeBackward stages result = .ok (some merged) ∧
          mergeBackward batches.flatten result = .ok (some merged) ∧
          source.apply merged = .ok result := by
  refine ⟨?_, Merger.faithful_forward.exists_merged_stages someBatch nonempty applied,
    Merger.faithful_backward.exists_merged_stages someBatch nonempty applied⟩
  rw [← applied]
  exact (Text.applyAll_flatten source batches).symm

/-- A cut between edits that swallow one another leaves the merged edit as it is. -/
theorem merged_stages_eq_merged_flatten_swallowing :
    let source : Text := ['a', 'b', 'c', 'd', 'e']
    let batches : List (List Edit) := [[⟨3, 0, ['X', 'Y']⟩, ⟨0, 1, []⟩], [⟨1, 4, ['Z']⟩]]
    let stages : List Edit := [⟨0, 3, ['b', 'c', 'X', 'Y']⟩, ⟨1, 4, ['Z']⟩]
    let merged : Edit := ⟨0, 4, ['b', 'Z']⟩
    batches ≠ [] ∧
      (∀ batch ∈ batches, batch ≠ []) ∧
      source.applyAll batches.flatten = .ok ['b', 'Z', 'e'] ∧
      (Merger.forward.each source batches = .ok stages ∧
        mergeForward source stages = .ok (some merged) ∧
        mergeForward source batches.flatten = .ok (some merged)) ∧
      (Merger.backward.each source batches = .ok stages ∧
        mergeBackward stages ['b', 'Z', 'e'] = .ok (some merged) ∧
        mergeBackward batches.flatten ['b', 'Z', 'e'] = .ok (some merged)) ∧
      source.apply merged = .ok ['b', 'Z', 'e'] := by
  intro source batches stages merged
  have applied : source.applyAll batches.flatten = .ok ['b', 'Z', 'e'] := rfl
  obtain ⟨_, forward, backward⟩ :=
    merged_stages_eq_merged_flatten (by decide) (by decide) applied
  obtain ⟨forwardStages, forwardMerged, forwardRun, _, forwardFromStages, forwardFromAll, leads⟩ :=
    forward
  obtain ⟨backwardStages, backwardMerged, backwardRun, _, backwardFromStages, backwardFromAll, _⟩ :=
    backward
  obtain rfl : stages = forwardStages := Except.ok.inj forwardRun
  obtain rfl : stages = backwardStages := Except.ok.inj backwardRun
  obtain rfl : merged = forwardMerged := Option.some.inj (Except.ok.inj forwardFromStages)
  obtain rfl : merged = backwardMerged := Option.some.inj (Except.ok.inj backwardFromStages)
  exact ⟨by decide, by decide, applied, ⟨forwardRun, forwardFromStages, forwardFromAll⟩,
    ⟨backwardRun, backwardFromStages, backwardFromAll⟩, leads⟩

end Splice
