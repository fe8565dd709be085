import Splice.Proofs.Command.Lines
import Splice.Proofs.Command.Work
import Splice.Proofs.Comparison
import Splice.Proofs.Merge.Points

namespace Splice

/-!
# Comparing two files and merging what was printed

The edits that a comparison prints may be saved and merged later.  Merging them from the
front, merging them from behind and merging them before they are printed come to one edit,
and that edit turns the one text into the other.
-/

/-- A batch that applies is merged alike by both merges, into an edit where the texts differ. -/
theorem exists_merged_of_applyAll
    {source target : Text}
    {batch : List Edit}
    (applies : source.applyAll batch = .ok target) :
    ∃ merged,
      mergeForward source batch = .ok merged ∧
        mergeBackward batch target = .ok merged ∧
        (source ≠ target → ∃ edit, merged = some edit ∧ source.apply edit = .ok target) := by
  by_cases empty : batch = []
  · subst empty
    refine ⟨none, rfl, rfl, fun differ => ?_⟩
    rw [Text.applyAll_nil] at applies
    exact (differ (Except.ok.inj applies)).elim
  · obtain ⟨edit, stands⟩ := Edit.StandsFor.exists_of_applyAll empty applies
    exact ⟨some edit, stands.mergeForward_eq applies, stands.mergeBackward_eq,
      fun _ => ⟨edit, rfl, stands.applied⟩⟩

/-- The edits of a comparison may be read back wherever the length of the longer text may. -/
theorem exists_readable_editsBy
    {compare : Comparer}
    {digitLimit : Option Nat}
    {source target : Text}
    (faithful : compare.Faithful)
    (readable : Json.Readable digitLimit (max source.length target.length))
    (order : Script.Order)
    (granularity : Granularity) :
    ∃ batch,
      editsBy compare order granularity Word.codeCount source target = .ok batch ∧
        source.applyAll batch = .ok target ∧
        ∀ edit ∈ batch, edit.Readable digitLimit := by
  obtain ⟨script, ⟨rfl, rfl⟩, given⟩ :=
    exists_edits_of_script faithful granularity (Int.le_refl Word.codeCount) source target
  refine ⟨script.edits order, given order, script.applyAll_edits order, fun edit member => ?_⟩
  obtain ⟨offsetWithin, lengthWithin⟩ := Script.bounds_of_mem_edits member
  exact ⟨readable.of_le offsetWithin, readable.of_le lengthWithin⟩

section

open Argument Invocation

variable {host : Host} {disk : Disk} {source target edits : Text}
variable {original modified : Text} {batch : List Edit}

/-- The command line that compares two files prints the edits that it is to show. -/
theorem diffLine_prints
    {reverse merge : Bool}
    {granularity : Option Granularity}
    {shown : List Edit}
    (sourcePlain : Plain source)
    (targetPlain : Plain target)
    (sourceHeld : disk.Holds source original)
    (targetHeld : disk.Holds target modified)
    (compared :
      editsBy host.compare (Work.orderOf reverse) (granularity.getD .word) Word.codeCount original
        modified = .ok batch)
    (shows : (Work.shownEdits merge original batch).Returns shown []) :
    (runProgram host disk (diffLine source target reverse granularity merge)).Prints
      (Json.writeBatch (shown.map Edit.points) ++ ['\n']) :=
  runProgram_prints (ofTexts?_diffLine sourcePlain targetPlain reverse granularity merge)
    (Work.diff_returns sourceHeld targetHeld compared shows)

/-- The command line that merges the edits of a file prints what merging came to. -/
theorem mergeLine_prints
    {processed : Bool}
    {merged : Option (Edit CodePoint)}
    (faithful : host.validate.Faithful)
    (readable : ∀ edit ∈ batch, edit.Readable host.digitLimit)
    (sourcePlain : Plain source)
    (editsPlain : Plain edits)
    (sourceHeld : disk.Holds source original)
    (editsHeld : disk.Holds edits (Json.writeBatch (batch.map Edit.points) ++ ['\n']))
    (merges :
      (Work.mergeBatch processed original.points (batch.map Edit.points)).Returns merged []) :
    (runProgram host disk (mergeLine source edits processed)).Prints
      (Work.mergedText merged ++ ['\n']) :=
  runProgram_prints (ofTexts?_mergeLine sourcePlain editsPlain processed)
    (Work.merge_returns faithful readable sourceHeld editsHeld merges)

/--
What a comparison of two files prints may be saved as a file of edits.  Of equal texts it is
the empty batch, of which no merge makes anything.  Of other texts both merges print one edit,
which turns the one text into the other, and the comparison prints this edit alone when it
merges what it finds.  The comparison may be any that is faithful and keeps equal texts, and
the validator any that takes counts and texts as they are.  Where the digits of a number are
limited, the length of the longer text has to be within the limit.
-/
theorem printed_edits_merge_into_one
    (faithful : host.compare.Faithful)
    (keepsEqual : host.compare.KeepsEqual)
    (validates : host.validate.Faithful)
    (readable : Json.Readable host.digitLimit (max original.length modified.length))
    {later : Disk}
    (sourcePlain : Plain source)
    (targetPlain : Plain target)
    (editsPlain : Plain edits)
    (sourceHeld : disk.Holds source original)
    (targetHeld : disk.Holds target modified)
    (reverse : Bool)
    (granularity : Option Granularity)
    (sourceKept : later.Holds source original)
    (editsSaved :
      later.Holds edits
        (runProgram host disk
          (diffLine source target reverse granularity false)).printed) :
    let found := runProgram host disk (diffLine source target reverse granularity false)
    let collapsed := runProgram host disk (diffLine source target reverse granularity true)
    let mergedBy := fun processed =>
      runProgram host later (mergeLine source edits processed)
    found.status? = some 0 ∧
      (original = modified →
        found.Prints "[]\n".toList ∧ ∀ processed, (mergedBy processed).Prints "null\n".toList) ∧
      (original ≠ modified →
        ∃ edit : Edit,
          (∀ processed, (mergedBy processed).Prints (Json.writeEdit 0 edit.points ++ ['\n'])) ∧
            original.apply edit = .ok modified ∧
            collapsed.Prints (Json.writeBatch [edit.points] ++ ['\n'])) := by
  intro found collapsed mergedBy
  obtain ⟨batch, compared, applies, batchReadable⟩ :=
    exists_readable_editsBy faithful readable (Work.orderOf reverse) (granularity.getD .word)
  obtain ⟨merged, mergesForward, _, leads⟩ := exists_merged_of_applyAll applies
  obtain ⟨pointsForward, pointsBackward⟩ := merge_points applies mergesForward
  have foundPrints : found.Prints (Json.writeBatch (batch.map Edit.points) ++ ['\n']) :=
    diffLine_prints sourcePlain targetPlain sourceHeld targetHeld compared
      Work.shownEdits_returns_batch
  have editsHeld : later.Holds edits (Json.writeBatch (batch.map Edit.points) ++ ['\n']) :=
    foundPrints.2 ▸ editsSaved
  have mergedPrints (processed : Bool) :
      (mergedBy processed).Prints (Work.mergedText (merged.map Edit.points) ++ ['\n']) :=
    mergeLine_prints validates batchReadable sourcePlain editsPlain sourceKept editsHeld
      (Work.mergeBatch_returns (Text.applyAll_points applies) pointsForward pointsBackward
        processed)
  refine ⟨foundPrints.1, fun same => ?_, fun differ => ?_⟩
  · have nothing : batch = [] := by
      subst same
      have self := editsBy_self faithful keepsEqual (Work.orderOf reverse)
        (granularity.getD .word) (Int.le_refl Word.codeCount) original
      exact Except.ok.inj (compared.symm.trans self)
    subst nothing
    cases mergesForward
    exact ⟨foundPrints, mergedPrints⟩
  · obtain ⟨edit, isEdit, applied⟩ := leads differ
    subst isEdit
    exact ⟨edit, mergedPrints, applied,
      diffLine_prints sourcePlain targetPlain sourceHeld targetHeld compared
        (Work.shownEdits_returns_merged mergesForward)⟩

/-- Two files in a folder are compared from the right, and the output is saved beside them. -/
theorem printed_edits_merge_into_one_saved_beside :
    let host := Host.standard
    let original : Text := ['a', ' ', 'b', '\r', '\n']
    let modified : Text := ['b', ' ', 'é']
    let folder : Folder :=
      [(["old".toList], .file (String.ofList original).toUTF8),
        (["new".toList], .file (String.ofList modified).toUTF8)]
    let found := runProgram host folder.entry
      (diffLine "old".toList "new".toList true (some .char) false)
    let later := folder.save (Path.ofText "edits".toList) (String.ofList found.printed).toUTF8
    (host.compare.Faithful ∧ host.compare.KeepsEqual ∧ host.validate.Faithful) ∧
      Json.Readable host.digitLimit (max original.length modified.length) ∧
      (Plain "old".toList ∧ Plain "new".toList ∧ Plain "edits".toList) ∧
      (Disk.Holds folder.entry "old".toList original ∧
        Disk.Holds folder.entry "new".toList modified) ∧
      (Disk.Holds later.entry "old".toList original ∧
        Disk.Holds later.entry "edits".toList found.printed) ∧
      ∃ edit : Edit,
        (∀ processed,
          (runProgram host later.entry
            (mergeLine "old".toList "edits".toList processed)).Prints
              (Json.writeEdit 0 edit.points ++ ['\n'])) ∧
          original.apply edit = .ok modified ∧
          (runProgram host folder.entry
            (diffLine "old".toList "new".toList true (some .char) true)).Prints
              (Json.writeBatch [edit.points] ++ ['\n']) := by
  intro host original modified folder found later
  have faithful : host.compare.Faithful := Script.spells_between
  have keepsEqual : host.compare.KeepsEqual := Script.keeps_between
  have validates : host.validate.Faithful := Edit.faithful_validate
  have readable : Json.Readable host.digitLimit (max original.length modified.length) := by
    decide
  have plain : Plain "old".toList ∧ Plain "new".toList ∧ Plain "edits".toList := by
    decide
  have held :
      Disk.Holds folder.entry "old".toList original ∧
        Disk.Holds folder.entry "new".toList modified :=
    ⟨rfl, rfl⟩
  have laterHeld :
      Disk.Holds later.entry "old".toList original ∧
        Disk.Holds later.entry "edits".toList found.printed :=
    ⟨rfl, rfl⟩
  have outcome :=
    printed_edits_merge_into_one faithful keepsEqual validates readable plain.1 plain.2.1
      plain.2.2 held.1 held.2 true (some .char) laterHeld.1 laterHeld.2
  exact ⟨⟨faithful, keepsEqual, validates⟩, readable, plain, held, laterHeld,
    outcome.2.2 (by decide)⟩

end

end Splice
