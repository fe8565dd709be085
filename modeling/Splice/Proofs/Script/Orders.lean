import Splice.Proofs.Merge.Hull
import Splice.Proofs.Script.Changes

namespace Splice.Script

/-!
# The two orders of the edits

The batches of a script from right to left and from left to right hold the same changes.
These lie apart in the source, so that what is applied from the right leaves everything in
front of it as it was.  In the other order every change is moved by the growth of those
before it.  Both batches have the same hull, which reaches from the start of the leftmost
change to the end of the rightmost one.
-/

namespace Rewrites

variable {changes : List Edit} {source target : Text} {leftmost rightmost : Edit}

/-- No change starts before an earlier one stops; the last change comes first. -/
theorem pairwise_apart
    (rewrites : Rewrites changes source target) :
    changes.Pairwise fun right left => left.stop ≤ right.offset := by
  induction rewrites with
  | unchanged kept =>
      exact .nil
  | changed removed inserted kept earlierRewrites inductionHypothesis =>
      exact List.pairwise_cons.mpr ⟨earlierRewrites.stop_le, inductionHypothesis⟩

/-- All changes lie between the start of the leftmost one and the end of the rightmost one. -/
theorem between_outermost
    (rewrites : Rewrites changes source target)
    (isLeftmost : changes.getLast? = some leftmost)
    (isRightmost : changes.head? = some rightmost) :
    ∀ change ∈ changes,
      leftmost.offset ≤ change.offset ∧ change.stop ≤ rightmost.stop := by
  have apart := rewrites.pairwise_apart
  intro change member
  constructor
  · obtain ⟨others, rfl⟩ := List.getLast?_eq_some_iff.mp isLeftmost
    rcases List.mem_append.mp member with isOther | isLast
    · have inFront := (List.pairwise_append.mp apart).2.2 change isOther leftmost (by simp)
      exact Nat.le_trans (Nat.le_add_right _ _) inFront
    · rw [List.mem_singleton.mp isLast]
  · obtain ⟨others, rfl⟩ := List.head?_eq_some_iff.mp isRightmost
    rcases List.mem_cons.mp member with isFirst | isOther
    · rw [isFirst]
    · have inFront := (List.pairwise_cons.mp apart).1 change isOther
      exact Nat.le_trans inFront (Nat.le_add_right _ _)

/-- What has been applied from the right leaves all text in front of it as it was. -/
theorem exists_turn
    (rewrites : Rewrites changes source target)
    {applied rest : List Edit}
    {edit : Edit}
    (order : changes = applied ++ edit :: rest)
    (behind : Text) :
    ∃ text,
      Text.applyAll (source ++ behind) applied = .ok text ∧
        edit.stop ≤ text.length ∧
        text.take edit.stop = source.take edit.stop := by
  induction rewrites generalizing applied behind with
  | unchanged kept =>
      simp at order
  | @changed earlier before after removed inserted kept earlierRewrites inductionHypothesis =>
      cases applied with
      | nil =>
          obtain ⟨rfl, _⟩ := List.cons.inj order
          refine ⟨_, rfl, ?_, List.take_append_of_le_length ?_⟩
          all_goals
            simp only [Edit.stop, List.length_append]
            omega
      | cons last others =>
          -- Of the text that the last change leaves, all of `before` still is as it was, and
          -- the edit whose turn comes later lies within it.
          obtain ⟨rfl, earlierOrder⟩ := List.cons.inj order
          obtain ⟨text, othersApplied, within, same⟩ :=
            inductionHypothesis earlierOrder (inserted ++ (kept ++ behind))
          have inFront : edit.stop ≤ before.length :=
            earlierRewrites.stop_le edit (by simp [earlierOrder])
          refine ⟨text, ?_, within, ?_⟩
          · rw [List.append_assoc _ kept, Text.applyAll_cons_append, List.append_assoc,
              othersApplied]
          · rw [same, List.append_assoc, List.take_append_of_le_length inFront]

/-! ## The part of the source that is covered -/

/-- Nothing is rewritten in front of the leftmost change, so the target reaches up to it. -/
theorem offset_leftmost_le
    (rewrites : Rewrites changes source target)
    (isLeftmost : changes.getLast? = some leftmost) :
    leftmost.offset ≤ target.length := by
  induction rewrites with
  | unchanged kept =>
      cases isLeftmost
  | @changed earlier before after removed inserted kept earlierRewrites inductionHypothesis =>
      simp only [List.length_append]
      cases earlier with
      | nil =>
          cases earlierRewrites
          rw [List.getLast?_singleton, Option.some.injEq] at isLeftmost
          subst isLeftmost
          simp only
          omega
      | cons next others =>
          rw [List.getLast?_cons_cons] at isLeftmost
          have reached := inductionHypothesis isLeftmost
          omega

/-- From right to left the batch covers what lies between the outermost changes. -/
theorem ofBatch_rightToLeft
    (rewrites : Rewrites changes source target)
    (isLeftmost : changes.getLast? = some leftmost)
    (isRightmost : changes.head? = some rightmost) :
    Hull.ofBatch changes =
      some ⟨leftmost.offset, rightmost.stop, Batch.growth changes⟩ := by
  induction rewrites generalizing rightmost with
  | unchanged kept =>
      cases isLeftmost
  | @changed earlier before after removed inserted kept earlierRewrites inductionHypothesis =>
      cases isRightmost
      cases earlier with
      | nil =>
          rw [List.getLast?_singleton, Option.some.injEq] at isLeftmost
          subst isLeftmost
          simp [Hull.ofEdit]
      | cons next others =>
          rw [List.getLast?_cons_cons] at isLeftmost
          have inFront := earlierRewrites.stop_le
          have nextInFront := inFront next (by simp)
          have leftmostInFront := inFront leftmost (List.mem_of_getLast? isLeftmost)
          rw [Hull.ofBatch_cons, inductionHypothesis isLeftmost rfl]
          simp only [Edit.stop] at nextInFront leftmostInFront
          simp only [Option.merge_some_some, Hull.andThen, Hull.ofEdit, Edit.stop,
            Batch.growth_cons, Option.some.injEq, Hull.mk.injEq, Edit.growth, and_true]
          omega

/-- From left to right the batch covers the same, although its edits have been moved. -/
theorem ofBatch_leftToRight
    (rewrites : Rewrites changes source target)
    (isLeftmost : changes.getLast? = some leftmost)
    (isRightmost : changes.head? = some rightmost) :
    Hull.ofBatch (drift 0 changes.reverse) =
      some ⟨leftmost.offset, rightmost.stop, Batch.growth changes⟩ := by
  induction rewrites generalizing rightmost with
  | unchanged kept =>
      cases isLeftmost
  | @changed earlier before after removed inserted kept earlierRewrites inductionHypothesis =>
      cases isRightmost
      have grown := earlierRewrites.length_target
      rw [earlierRewrites.drift_reverse_cons, Hull.ofBatch_append, Hull.ofBatch_singleton]
      cases earlier with
      | nil =>
          rw [List.getLast?_singleton, Option.some.injEq] at isLeftmost
          subst isLeftmost
          simp only [Batch.growth_nil, Int.add_zero, Int.natCast_inj] at grown
          simp [Hull.ofEdit, drift, Edit.stop, Edit.growth, grown]
      | cons next others =>
          -- The last edit has been moved by the growth of the earlier ones, and joining its
          -- hull to theirs moves it back.
          rw [List.getLast?_cons_cons] at isLeftmost
          have nextInFront := earlierRewrites.stop_le next (by simp)
          have reached := earlierRewrites.offset_leftmost_le isLeftmost
          rw [inductionHypothesis isLeftmost rfl]
          simp only [Edit.stop] at nextInFront
          simp only [Option.merge_some_some, Hull.andThen, Hull.ofEdit, Edit.stop,
            Batch.growth_cons, Edit.growth, Option.some.injEq, Hull.mk.injEq] at grown ⊢
          omega

end Rewrites

/-! ## Moved changes -/

theorem editAt?_eq_some_iff
    {offset : Int}
    {length : Nat}
    {text : Text}
    {edit : Edit} :
    editAt? offset length text = some edit ↔
      0 ≤ offset ∧ edit = ⟨offset.toNat, length, text⟩ := by
  simp [editAt?, eq_comm]

/-- Each change is tried at its offset, moved by the growth of the changes before it. -/
theorem getElem?_driftAttempts
    (growth : Int)
    (changes : List Edit)
    (index : Nat) :
    (driftAttempts growth changes)[index]? =
      changes[index]?.map fun change =>
        editAt? (change.offset + (growth + Batch.growth (changes.take index)))
          change.length change.text := by
  induction changes generalizing growth index with
  | nil =>
      rfl
  | cons change rest inductionHypothesis =>
      cases index with
      | zero =>
          simp [driftAttempts]
      | succ index =>
          simp [driftAttempts, inductionHypothesis, Int.add_assoc]

/-- From left to right, every change has an edit that is moved by the growth before it. -/
theorem exists_moved
    (script : Script)
    {index : Nat}
    {change : Edit}
    (held : script.changes[index]? = some change) :
    ∃ edit,
      (script.edits .leftToRight)[index]? = some edit ∧
        edit.length = change.length ∧
        edit.text = change.text ∧
        (edit.offset : Int) = change.offset + Batch.growth (script.changes.take index) := by
  have formed := congrArg (·[index]?) (script.attempts_eq_map_some .leftToRight)
  simp only [attempts, getElem?_driftAttempts, held, Option.map_some, List.getElem?_map,
    Int.zero_add] at formed
  obtain ⟨edit, given, isMoved⟩ := Option.map_eq_some_iff.mp formed.symm
  obtain ⟨reached, rfl⟩ := editAt?_eq_some_iff.mp isMoved.symm
  exact ⟨_, given, rfl, rfl, Int.toNat_of_nonneg reached⟩

theorem length_drift (growth : Int) (changes : List Edit) :
    (drift growth changes).length = changes.length := by
  induction changes generalizing growth with
  | nil =>
      rfl
  | cons change rest inductionHypothesis =>
      simp [drift, inductionHypothesis]

end Splice.Script
