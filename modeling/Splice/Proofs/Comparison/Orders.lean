import Splice.Proofs.Comparison
import Splice.Proofs.Merge.Stages
import Splice.Proofs.Script.Orders

namespace Splice

/-!
# A comparison in both orders

A comparison gives its edits from left to right or from right to left.  Both batches hold
the same changes: from the right they stand in the coordinates of the source, from the left
each of them is moved by the growth of those before it.  Merging either batch, from the
front or from behind, gives one edit from the leftmost change to the rightmost one.
-/

/-- A comparison that replaces everything by changes that touch, and keeps an empty piece. -/
def Comparer.piecemeal : Comparer :=
  fun source target =>
    [.delete (source.take 1), .insert (target.take 1), .keep [], .insert (target.drop 1),
      .delete (source.drop 1)]

theorem Comparer.faithful_piecemeal : Comparer.piecemeal.Faithful := by
  intro source target
  have sourceWhole := List.take_append_drop 1 source
  have targetWhole := List.take_append_drop 1 target
  constructor
  · simpa [piecemeal, Piece.source, Piece.delete, Piece.insert, Piece.keep] using sourceWhole
  · simpa [piecemeal, Piece.target, Piece.delete, Piece.insert, Piece.keep] using targetWhole

variable {compare : Comparer}

/--
A faithful comparison turns the source into the target in either order.  From right to left
its edits are changes of the source, one behind the other without an overlap.  From left to
right there is one edit for each of them, with the same length and text, moved by the growth
of the changes before it.  When an edit from the right has its turn, the text still is the
source as far as that edit reaches, so it replaces what the source has in its place.
-/
theorem orders_differ_by_growth
    (faithful : compare.Faithful)
    (granularity : Granularity)
    (source target : Text) :
    ∃ forward backward,
      editsBy compare .leftToRight granularity Word.codeCount source target = .ok forward ∧
        editsBy compare .rightToLeft granularity Word.codeCount source target = .ok backward ∧
        source.applyAll forward = .ok target ∧
        source.applyAll backward = .ok target ∧
        forward.length = backward.length ∧
        (∀ change ∈ backward, change.stop ≤ source.length) ∧
        (backward.reverse.Pairwise fun left right => left.stop ≤ right.offset) ∧
        (∀ index change,
          backward.reverse[index]? = some change →
            ∃ edit,
              forward[index]? = some edit ∧
                edit.length = change.length ∧
                edit.text = change.text ∧
                (edit.offset : Int) =
                  change.offset + Batch.growth (backward.reverse.take index)) ∧
        ∀ applied edit rest,
          backward = applied ++ edit :: rest →
            ∃ text,
              source.applyAll applied = .ok text ∧
                edit.stop ≤ text.length ∧
                text.take edit.stop = source.take edit.stop ∧
                text.slice edit.offset edit.stop = source.slice edit.offset edit.stop := by
  obtain ⟨script, ⟨rfl, rfl⟩, given⟩ :=
    exists_edits_of_script faithful granularity (Int.le_refl Word.codeCount) source target
  have rewrites := Script.rewrites_changesBackward script
  refine ⟨script.edits .leftToRight, script.edits .rightToLeft, given _, given _,
    script.applyAll_edits _, script.applyAll_edits _, ?_, rewrites.stop_le,
    List.pairwise_reverse.mpr rewrites.pairwise_apart,
    fun index change held => script.exists_moved held, ?_⟩
  · simp [Script.edits, Script.changes, Script.length_drift]
  · intro applied edit rest order
    obtain ⟨text, appliedLeads, within, same⟩ := rewrites.exists_turn order []
    rw [List.append_nil] at appliedLeads
    refine ⟨text, appliedLeads, within, same, ?_⟩
    rw [Text.slice, Text.slice, ← List.drop_take, ← List.drop_take, same]

/-- Of two changes that touch, the second is moved by the growth of the first. -/
theorem orders_differ_by_growth_touching :
    let source : Text := ['a', 'b', 'c']
    let target : Text := ['x', 'y']
    let forward : List Edit := [⟨0, 1, ['x', 'y']⟩, ⟨2, 2, []⟩]
    let backward : List Edit := [⟨1, 2, []⟩, ⟨0, 1, ['x', 'y']⟩]
    Comparer.piecemeal.Faithful ∧
      editsBy .piecemeal .leftToRight .char Word.codeCount source target = .ok forward ∧
      editsBy .piecemeal .rightToLeft .char Word.codeCount source target = .ok backward ∧
      (backward.reverse.Pairwise fun left right => left.stop ≤ right.offset) ∧
      (∀ index change,
        backward.reverse[index]? = some change →
          ∃ edit,
            forward[index]? = some edit ∧
              edit.length = change.length ∧
              edit.text = change.text ∧
              (edit.offset : Int) =
                change.offset + Batch.growth (backward.reverse.take index)) ∧
      ∀ applied edit rest,
        backward = applied ++ edit :: rest →
          ∃ text,
            source.applyAll applied = .ok text ∧
              edit.stop ≤ text.length ∧
              text.take edit.stop = source.take edit.stop ∧
              text.slice edit.offset edit.stop = source.slice edit.offset edit.stop := by
  intro source target forward backward
  obtain ⟨_, _, forwardGiven, backwardGiven, _, _, _, _, apart, moved, turns⟩ :=
    orders_differ_by_growth Comparer.faithful_piecemeal .char source target
  cases forwardGiven
  cases backwardGiven
  exact ⟨Comparer.faithful_piecemeal, rfl, rfl, apart, moved, turns⟩

/-- One edit stands for the changes of a script in both orders; it spans all of them. -/
theorem Script.exists_standsFor_edits
    (script : Script)
    {leftmost rightmost : Edit}
    (isLeftmost : (script.edits .rightToLeft).getLast? = some leftmost)
    (isRightmost : (script.edits .rightToLeft).head? = some rightmost) :
    ∃ merged : Edit,
      merged.offset = leftmost.offset ∧
        merged.stop = rightmost.stop ∧
        ∀ order, merged.StandsFor (script.edits order) script.source script.target := by
  have rewrites := Script.rewrites_changesBackward script
  have hullRight := rewrites.ofBatch_rightToLeft isLeftmost isRightmost
  have hullLeft := rewrites.ofBatch_leftToRight isLeftmost isRightmost
  have nonempty : script.edits .rightToLeft ≠ [] := by
    intro empty
    rw [empty] at isLeftmost
    cases isLeftmost
  obtain ⟨merged, stands⟩ :=
    Edit.StandsFor.exists_of_applyAll nonempty (script.applyAll_edits .rightToLeft)
  have spans := Option.some.inj (stands.covers.symm.trans hullRight)
  refine ⟨merged, congrArg Hull.start spans, Int.ofNat_inj.mp (congrArg Hull.stop spans), ?_⟩
  intro order
  cases order with
  | leftToRight =>
      exact ⟨hullLeft.trans (hullRight.symm.trans stands.covers), stands.applied⟩
  | rightToLeft =>
      exact stands

/--
Where a faithful comparison gives edits, merging them in either order, on the source before
they are applied or on the target behind them, gives one and the same edit.  It reaches from
the start of the leftmost change to the end of the rightmost one, and its text is what the
target has between the text in front of that range and the text behind it.
-/
theorem orders_merge_alike
    (faithful : compare.Faithful)
    (granularity : Granularity)
    (source target : Text) :
    ∃ forward backward,
      editsBy compare .leftToRight granularity Word.codeCount source target = .ok forward ∧
        editsBy compare .rightToLeft granularity Word.codeCount source target = .ok backward ∧
        source.applyAll forward = .ok target ∧
        source.applyAll backward = .ok target ∧
        (forward = [] ↔ backward = []) ∧
        (backward ≠ [] →
          ∃ leftmost rightmost merged : Edit,
            backward.getLast? = some leftmost ∧
              backward.head? = some rightmost ∧
              (∀ change ∈ backward,
                leftmost.offset ≤ change.offset ∧ change.stop ≤ rightmost.stop) ∧
              merged.offset = leftmost.offset ∧
              merged.stop = rightmost.stop ∧
              merged.stop ≤ source.length ∧
              merged.offset + (source.length - merged.stop) ≤ target.length ∧
              merged.text =
                target.slice merged.offset
                  (target.length - (source.length - merged.stop)) ∧
              mergeForward source forward = .ok (some merged) ∧
              mergeForward source backward = .ok (some merged) ∧
              mergeBackward forward target = .ok (some merged) ∧
              mergeBackward backward target = .ok (some merged)) := by
  obtain ⟨script, ⟨rfl, rfl⟩, given⟩ :=
    exists_edits_of_script faithful granularity (Int.le_refl Word.codeCount) source target
  have rewrites := Script.rewrites_changesBackward script
  refine ⟨script.edits .leftToRight, script.edits .rightToLeft, given _, given _,
    script.applyAll_edits _, script.applyAll_edits _, ?_, ?_⟩
  · rw [← List.length_eq_zero_iff, ← List.length_eq_zero_iff]
    simp [Script.edits, Script.changes, Script.length_drift]
  · intro nonempty
    have isLeftmost := List.getLast?_eq_some_getLast nonempty
    have isRightmost := List.head?_eq_some_head nonempty
    obtain ⟨merged, startsThere, stopsThere, stands⟩ :=
      script.exists_standsFor_edits isLeftmost isRightmost
    have applied := (stands .rightToLeft).applied
    obtain ⟨spared, text_eq⟩ := Text.text_eq_slice_of_apply applied
    exact ⟨_, _, merged, isLeftmost, isRightmost,
      rewrites.between_outermost isLeftmost isRightmost, startsThere, stopsThere,
      (Text.apply_eq_ok_iff.mp applied).1, spared, text_eq,
      (stands .leftToRight).mergeForward_eq (script.applyAll_edits .leftToRight),
      (stands .rightToLeft).mergeForward_eq (script.applyAll_edits .rightToLeft),
      (stands .leftToRight).mergeBackward_eq, (stands .rightToLeft).mergeBackward_eq⟩

/-- Two changes that touch are merged alike, one behind the other or one before the other. -/
theorem orders_merge_alike_touching :
    let source : Text := ['a', 'b', 'c']
    let target : Text := ['x', 'y']
    let forward : List Edit := [⟨0, 1, ['x', 'y']⟩, ⟨2, 2, []⟩]
    let backward : List Edit := [⟨1, 2, []⟩, ⟨0, 1, ['x', 'y']⟩]
    Comparer.piecemeal.Faithful ∧
      editsBy .piecemeal .leftToRight .char Word.codeCount source target = .ok forward ∧
      editsBy .piecemeal .rightToLeft .char Word.codeCount source target = .ok backward ∧
      backward ≠ [] ∧
      ∃ merged : Edit,
        merged.offset = 0 ∧
          merged.stop = 3 ∧
          merged.text = target.slice 0 2 ∧
          mergeForward source forward = .ok (some merged) ∧
          mergeForward source backward = .ok (some merged) ∧
          mergeBackward forward target = .ok (some merged) ∧
          mergeBackward backward target = .ok (some merged) := by
  intro source target forward backward
  obtain ⟨_, _, forwardGiven, backwardGiven, _, _, _, merges⟩ :=
    orders_merge_alike Comparer.faithful_piecemeal .char source target
  cases forwardGiven
  cases backwardGiven
  obtain ⟨_, _, merged, isLeftmost, isRightmost, _, starts, stops, _, _, text_eq, merged_eq⟩ :=
    merges (by decide)
  cases isLeftmost
  cases isRightmost
  rw [starts, stops] at text_eq
  exact ⟨Comparer.faithful_piecemeal, rfl, rfl, by decide, merged, starts, stops, text_eq,
    merged_eq⟩

end Splice
