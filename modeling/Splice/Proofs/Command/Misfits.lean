import Splice.Proofs.Command.Stopping
import Splice.Proofs.Merge.Gaps

namespace Splice

/-!
# Batches that do not fit their document

A batch that does not fit its document is always refused where it is applied before it is
merged.  Where it is merged without being applied, only a gap that reaches beyond the document
gives it away.  Without such a gap the merge returns an edit, and this edit does not fit the
document either.
-/

namespace Work

variable {Value Result : Type} {work : Work Value} {next : Value → Work Result}

/-- The work ends with a failure, whatever was done before it. -/
def Fails (work : Work Value) : Prop :=
  ∀ before, ∃ after, work.run.run before = (.error .failure, after)

theorem fails_fail (text : Text) : Fails (fail text : Work Value) :=
  fun _ => ⟨_, rfl⟩

/-- Work that does not stop may come before work that fails. -/
theorem Finishes.bind_fails
    (finishes : work.Finishes)
    (nextFails : ∀ value, (next value).Fails) :
    (work >>= next).Fails := by
  intro before
  obtain ⟨value, between, ended⟩ := finishes before
  rw [run_bind_of_ok ended]
  exact nextFails value between

theorem Returns.not_fails
    {value : Value}
    {printed : List Text}
    (returns : work.Returns value printed) :
    ¬work.Fails := by
  intro fails
  obtain ⟨_, returned, _⟩ := returns .empty
  obtain ⟨_, failed⟩ := fails .empty
  cases returned.symm.trans failed

theorem finishes_report (records : List LogRecord) : (report records).Finishes :=
  fun _ => ⟨_, _, rfl⟩

theorem fails_mismatch (error : RangeError) : Fails (mismatch error : Work Value) :=
  (finishes_report _).bind_fails fun _ => fails_fail _

variable {α : Type} {source : Text α} {batch : List (Edit α)} {error : RangeError}

/-- Merging a batch that has been applied first fails where the batch does not apply. -/
theorem fails_applyAndMerge
    (refused : source.applyAll batch = .error error) :
    (applyAndMerge source batch).Fails := by
  rw [applyAndMerge, refused]
  exact (finishes_report _).bind_fails fun _ => fails_mismatch error

/-- Merging a batch as it is fails exactly where the merge is refused. -/
theorem fails_mergeReported_iff :
    (mergeReported source batch).Fails ↔
      ∃ refusal, mergeForward source batch = .error refusal := by
  cases merges : mergeForward source batch with
  | ok merged =>
      refine iff_of_false (mergeReported_returns merges).not_fails ?_
      rintro ⟨refusal, impossible⟩
      cases impossible
  | error refusal =>
      refine iff_of_true ?_ ⟨refusal, rfl⟩
      rw [mergeReported, merges]
      exact (finishes_report _).bind_fails fun _ => fails_mismatch refusal

end Work

/--
Of a batch that does not fit its document: merging fails if the batch is applied first.  If it
is not, then the merge is refused exactly if there is a gap between the edits that reaches
beyond the document, and merging fails exactly then.  Without such a gap there is a merged
edit, and it reaches beyond the document.
-/
theorem misfit_is_refused_iff_gap_is_missing
    {α : Type}
    {source : Text α}
    {batch : List (Edit α)}
    {error : RangeError}
    (refused : source.applyAll batch = .error error) :
    (Work.mergeBatch true source batch).Fails ∧
      ((∃ refusal, mergeForward source batch = .error refusal) ↔
        ¬Batch.GapsWithin source.length batch) ∧
      ((Work.mergeBatch false source batch).Fails ↔
        ¬Batch.GapsWithin source.length batch) ∧
      (Batch.GapsWithin source.length batch →
        ∃ merged,
          mergeForward source batch = .ok (some merged) ∧ source.length < merged.stop) := by
  have gapMissing :
      (∃ refusal, mergeForward source batch = .error refusal) ↔
        ¬Batch.GapsWithin source.length batch :=
    exists_mergeForward_error_iff
  exact ⟨Work.fails_applyAndMerge refused, gapMissing,
    Work.fails_mergeReported_iff.trans gapMissing, exists_misfit_of_gapsWithin refused⟩

/-- Behind the first edit there is a gap that the document lacks. -/
theorem misfit_is_refused_iff_gap_is_missing_behind :
    Text.applyAll ['0', '1', '2', '3'] [⟨0, 1, ['A']⟩, ⟨8, 1, ['B']⟩] = .error ⟨8, 1, 4⟩ ∧
      ¬Batch.GapsWithin 4 [⟨0, 1, ['A']⟩, ⟨8, 1, ['B']⟩] ∧
      (Work.mergeBatch true ['0', '1', '2', '3'] [⟨0, 1, ['A']⟩, ⟨8, 1, ['B']⟩]).Fails ∧
      (Work.mergeBatch false ['0', '1', '2', '3'] [⟨0, 1, ['A']⟩, ⟨8, 1, ['B']⟩]).Fails := by
  have refused :
      Text.applyAll ['0', '1', '2', '3'] [⟨0, 1, ['A']⟩, ⟨8, 1, ['B']⟩] = .error ⟨8, 1, 4⟩ :=
    rfl
  have missing : ¬Batch.GapsWithin 4 [⟨0, 1, ['A']⟩, ⟨8, 1, ['B']⟩] := by
    decide
  obtain ⟨failsApplied, _, failsIff, _⟩ := misfit_is_refused_iff_gap_is_missing refused
  exact ⟨refused, missing, failsApplied, failsIff.mpr missing⟩

/-- A single edit leaves no gap, so that it is merged wherever it lies. -/
theorem misfit_without_gap_is_merged :
    let folder : Folder :=
      [(["text".toList], .file "abc".toUTF8),
        (["edits".toList],
          .file "[\x7b\"offset\": 50, \"length\": 7, \"text\": \"q\"\x7d]".toUTF8)]
    let mergeWith := fun options : List String =>
      runProgram Host.standard folder.entry
        ((["merge", "text", "edits"] ++ options).map String.toList)
    Text.applyAll ['a', 'b', 'c'] [⟨50, 7, ['q']⟩] = .error ⟨50, 7, 3⟩ ∧
      mergeForward ['a', 'b', 'c'] [⟨50, 7, ['q']⟩] = .ok (some ⟨50, 7, ['q']⟩) ∧
      (mergeWith ["--processed"]).status? = some 1 ∧
      (mergeWith []).status? = some 0 := by
  intro folder mergeWith
  exact ⟨rfl, rfl, by decide +kernel, by decide +kernel⟩

end Splice
