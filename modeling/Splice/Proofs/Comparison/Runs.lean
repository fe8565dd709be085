import Splice.Proofs.Comparison
import Splice.Proofs.Script.Orders
import Splice.Proofs.Script.Runs.Changes
import Splice.Proofs.Word.Encoding

namespace Splice

/-!
# One edit for each run of a comparison

A comparison delivers its script of the texts themselves or of the codes of their tokens.  What
is in normal form stays so when the codes are decoded, since no token is empty and every piece
stays what it is.  So the edits of a comparison whose scripts are in normal form are those of
their runs, one for each.
-/

namespace Script

variable {script : Script}

/-- A run of pieces that have been changed, but not in what happens to them, was one before. -/
theorem Run.IsMaximal.exists_of_map
    {change : Piece → Piece}
    {run : Run}
    (sameOperation : ∀ piece, (change piece).operation = piece.operation)
    (isMaximal : run.IsMaximal (script.map change)) :
    ∃ inner : Run, inner.IsMaximal script ∧ inner.pieces.map change = run.pieces := by
  have sameKept : ∀ piece, (change piece).isKept = piece.isKept := by
    intro piece
    rw [Piece.isKept, sameOperation, Piece.isKept]
  rcases run with ⟨front, pieces, behind⟩
  obtain ⟨whole, notEmpty, noneKept, keptInFront, keptBehind⟩ := isMaximal
  obtain ⟨beginning, innerBehind, rfl, changedBeginning, rfl⟩ := List.map_eq_append_iff.mp whole
  obtain ⟨innerFront, innerPieces, rfl, rfl, rfl⟩ := List.map_eq_append_iff.mp changedBeginning
  refine ⟨⟨innerFront, innerPieces, innerBehind⟩, ⟨rfl, ?_, ?_, ?_, ?_⟩, rfl⟩
  · simpa using notEmpty
  · simpa [sameKept] using noneKept
  · simpa [sameKept] using keptInFront
  · simpa [sameKept] using keptBehind

theorem DeletionsFirst.map_decoded
    {pieces : Script}
    (deletionsFirst : DeletionsFirst pieces)
    (lexicon : Word.Lexicon) :
    DeletionsFirst (pieces.map lexicon.decoded) := by
  obtain ⟨deletions, insertions, rfl⟩ := deletionsFirst
  exact ⟨deletions.map lexicon.decode, insertions.map lexicon.decode, by
    simp [Function.comp_def, Word.Lexicon.decoded, Piece.delete, Piece.insert]⟩

/-- Codes of tokens that are not empty are decoded into a script in normal form again. -/
theorem Normal.map_decoded
    {lexicon : Word.Lexicon}
    (normal : script.Normal)
    (nonempty : lexicon.All (· ≠ []))
    (known : ∀ piece ∈ script, ∀ c ∈ piece.text, lexicon.knows c = true) :
    Normal (script.map lexicon.decoded) where
  noneEmpty := by
    intro piece member
    obtain ⟨coded, listed, rfl⟩ := List.mem_map.mp member
    exact Word.Lexicon.decode_ne_nil nonempty (known coded listed) (normal.noneEmpty coded listed)
  deletionsFirst := by
    intro run isMaximal
    have sameOperation :
        ∀ piece, (lexicon.decoded piece).operation = piece.operation :=
      fun _ => rfl
    obtain ⟨inner, innerMaximal, sameRun⟩ := isMaximal.exists_of_map sameOperation
    rw [← sameRun]
    exact (normal.deletionsFirst inner innerMaximal).map_decoded lexicon

end Script

variable {compare : Comparer} {limit : Int} {granularity : Granularity}

/-- What a comparison delivers: a script of the texts, or of the codes of their tokens. -/
def Comparer.Delivers
    (compare : Comparer)
    (limit : Int)
    (source target : Text)
    (delivered : Script) :
    Granularity → Prop
  | .char => delivered = compare source target
  | .word =>
      ∃ encoding,
        Word.encode limit source target = .ok encoding ∧
          delivered = compare encoding.source encoding.target

/-- The script of a comparison does piece by piece what the delivered one does. -/
theorem exists_normal_scriptBy
    (faithful : compare.Faithful)
    (enough : limit ≤ Word.codeCount)
    {source target : Text}
    {delivered : Script}
    (delivers : compare.Delivers limit source target delivered granularity)
    (normal : delivered.Normal) :
    ∃ script : Script,
      scriptBy compare granularity limit source target = .ok script ∧
        script.map Piece.operation = delivered.map Piece.operation ∧
        script.source = source ∧
        script.Normal := by
  cases granularity with
  | char =>
      cases delivers
      exact ⟨compare source target, rfl, rfl, (faithful source target).1, normal⟩
  | word =>
      obtain ⟨encoding, encoded, rfl⟩ := delivers
      obtain ⟨compared, sourceDivides, targetDivides⟩ :=
        scriptBy_word_of_encode faithful enough encoded
      obtain ⟨knownSource, decodedSource⟩ := sourceDivides.reads
      have known :=
        Word.Lexicon.knows_of_mem_piece knownSource targetDivides.reads.1
      refine ⟨_, compared, ?_, ?_,
        normal.map_decoded (Word.all_ne_nil_of_encode encoded) known⟩
      · simp [Function.comp_def, Word.Lexicon.decoded]
      · exact (encoding.lexicon.on_map_decoded .source _).trans decodedSource

/--
A script in normal form, whether it is one of the texts or of their tokens, gives one edit for
each of its runs.  From right to left the edit of a run replaces what the run deletes, where that
stands in the source, by what the run inserts; from left to right it does the same, moved by the
growth of the edits of earlier runs.  Between one run and the next some of the source is kept.
-/
theorem one_edit_for_each_run
    (faithful : compare.Faithful)
    (enough : limit ≤ Word.codeCount)
    (granularity : Granularity)
    {source target : Text}
    {delivered : Script}
    (delivers : compare.Delivers limit source target delivered granularity)
    (normal : delivered.Normal) :
    ∃ (script : Script) (runs : List Script.Run) (forward backward : List Edit),
      scriptBy compare granularity limit source target = .ok script ∧
        script.map Piece.operation = delivered.map Piece.operation ∧
        (∀ run, run ∈ runs ↔ run.IsMaximal script) ∧
        editsBy compare .leftToRight granularity limit source target = .ok forward ∧
        editsBy compare .rightToLeft granularity limit source target = .ok backward ∧
        backward.reverse = runs.map Script.Run.edit ∧
        (∀ run ∈ runs,
          ∃ deletions insertions : List Text,
            run.pieces = deletions.map Piece.delete ++ insertions.map Piece.insert ∧
              source.slice run.edit.offset run.edit.stop = deletions.flatten ∧
              run.edit.length = deletions.flatten.length ∧
              run.edit.text = insertions.flatten) ∧
        forward.length = runs.length ∧
        (∀ index run,
          runs[index]? = some run →
            ∃ edit,
              forward[index]? = some edit ∧
                edit.length = run.edit.length ∧
                edit.text = run.edit.text ∧
                (edit.offset : Int) =
                  run.edit.offset + Batch.growth (backward.reverse.take index)) ∧
        runs.IsChain fun earlier later =>
          earlier.Precedes later ∧ earlier.edit.stop < later.edit.offset := by
  obtain ⟨script, compared, samePieces, rfl, scriptNormal⟩ :=
    exists_normal_scriptBy faithful enough delivers normal
  have changes_eq := scriptNormal.changes_eq
  refine ⟨script, script.runs, _, _, compared, samePieces, fun run => Script.mem_runs_iff,
    editsBy_eq_ok compared .leftToRight, editsBy_eq_ok compared .rightToLeft, changes_eq,
    ?_, ?_, ?_, ?_⟩
  · intro run member
    have isMaximal := Script.mem_runs_iff.mp member
    exact isMaximal.exists_covered (scriptNormal.deletionsFirst run isMaximal)
  · rw [Script.edits, Script.length_drift, changes_eq, List.length_map]
  · intro index run listed
    refine script.exists_moved ?_
    rw [changes_eq, List.getElem?_map, listed, Option.map_some]
  · exact (Script.isChain_runs scriptNormal.noneEmpty).imp fun _ _ precedes =>
      ⟨precedes, precedes.stop_lt⟩

/-- A comparison that has one answer; texts that it does not spell are replaced as a whole. -/
def Comparer.answering (answer : Script) : Comparer :=
  fun source target =>
    if answer.Spells source target then answer else [.delete source, .insert target]

theorem Comparer.faithful_answering (answer : Script) : (answering answer).Faithful := by
  intro source target
  unfold answering
  split
  · next spells =>
      exact spells
  · simp [Script.Spells, Piece.source, Piece.target, Piece.delete, Piece.insert]

/-- Two runs, one of several deletions and insertions, make two edits. -/
theorem one_edit_for_each_run_two_runs :
    let answer : Script :=
      [.delete ['a'], .delete ['b'], .insert ['x'], .insert ['y', 'z'], .keep ['c'], .delete ['d']]
    let source : Text := ['a', 'b', 'c', 'd']
    let target : Text := ['x', 'y', 'z', 'c']
    (Comparer.answering answer).Faithful ∧
      Word.codeCount ≤ Word.codeCount ∧
      (Comparer.answering answer).Delivers Word.codeCount source target answer .char ∧
      answer.Normal ∧
      ∃ (script : Script) (runs : List Script.Run) (forward backward : List Edit),
        scriptBy (.answering answer) .char Word.codeCount source target = .ok script ∧
          script = answer ∧
          (∀ run, run ∈ runs ↔ run.IsMaximal script) ∧
          forward = [⟨0, 2, ['x', 'y', 'z']⟩, ⟨4, 1, []⟩] ∧
          backward.reverse = runs.map Script.Run.edit ∧
          runs.map Script.Run.edit = [⟨0, 2, ['x', 'y', 'z']⟩, ⟨3, 1, []⟩] ∧
          runs.IsChain fun earlier later =>
            earlier.Precedes later ∧ earlier.edit.stop < later.edit.offset := by
  intro answer source target
  have faithful := Comparer.faithful_answering answer
  have delivers :
      (Comparer.answering answer).Delivers Word.codeCount source target answer .char :=
    rfl
  have allRuns :
      answer.runs =
        [⟨[], [.delete ['a'], .delete ['b'], .insert ['x'], .insert ['y', 'z']],
            [.keep ['c'], .delete ['d']]⟩,
          ⟨[.delete ['a'], .delete ['b'], .insert ['x'], .insert ['y', 'z'], .keep ['c']],
            [.delete ['d']], []⟩] := by
    cbv
  have normal : answer.Normal := by
    refine ⟨by decide, fun run isMaximal => ?_⟩
    rw [← Script.mem_runs_iff, allRuns, List.mem_cons, List.mem_singleton] at isMaximal
    rcases isMaximal with rfl | rfl
    · exact ⟨[['a'], ['b']], [['x'], ['y', 'z']], rfl⟩
    · exact ⟨[['d']], [], rfl⟩
  refine ⟨faithful, Int.le_refl _, delivers, normal, ?_⟩
  obtain ⟨script, runs, forward, backward, compared, _, maximal, forwardGiven, backwardGiven,
      sameEdits, _, _, _, separate⟩ :=
    one_edit_for_each_run faithful (Int.le_refl Word.codeCount) .char delivers normal
  cases compared
  cases forwardGiven
  cases backwardGiven
  exact ⟨_, runs, _, _, rfl, rfl, maximal, rfl, sameEdits, sameEdits.symm.trans rfl, separate⟩

end Splice
