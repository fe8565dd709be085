import Splice.Proofs.Batch
import Splice.Script.Changes

namespace Splice.Script

/-!
# What the changes of a script do

The changes of a script rewrite its source into its target, whatever the order of its
pieces and also where some are empty.  Applied from right to left they do so as they are;
from left to right they do so with every offset moved by the growth of those before it,
and no offset that is moved becomes negative.
-/

/--
Changes of a text, the last one first, that turn it into another: in front of every
change lies what the earlier ones rewrite, and behind it a kept part, perhaps an empty one.
-/
inductive Rewrites : List Edit → Text → Text → Prop where
  | unchanged (kept : Text) : Rewrites [] kept kept
  | changed
      {earlier : List Edit}
      {before after : Text}
      (removed inserted kept : Text) :
      Rewrites earlier before after →
      Rewrites (⟨before.length, removed.length, inserted⟩ :: earlier)
        (before ++ removed ++ kept) (after ++ inserted ++ kept)

namespace Rewrites

theorem append_kept
    {changes : List Edit}
    {source target : Text}
    (rewrites : Rewrites changes source target)
    (kept : Text) :
    Rewrites changes (source ++ kept) (target ++ kept) := by
  cases rewrites with
  | unchanged =>
      exact .unchanged (source ++ kept)
  | changed removed inserted behind earlierRewrites =>
      simpa using changed removed inserted (behind ++ kept) earlierRewrites

theorem append_change
    {changes : List Edit}
    {source target : Text}
    (rewrites : Rewrites changes source target)
    (removed inserted : Text) :
    Rewrites (⟨source.length, removed.length, inserted⟩ :: changes)
      (source ++ removed) (target ++ inserted) := by
  simpa using changed removed inserted [] rewrites

/-- Every change lies within the source. -/
theorem stop_le
    {changes : List Edit}
    {source target : Text}
    (rewrites : Rewrites changes source target) :
    ∀ change ∈ changes, change.stop ≤ source.length := by
  induction rewrites with
  | unchanged kept =>
      simp
  | @changed earlier before after removed inserted kept _ inductionHypothesis =>
      intro change member
      simp only [List.length_append]
      rcases List.mem_cons.mp member with isLast | isEarlier
      · simp only [isLast, Edit.stop]
        omega
      · have within := inductionHypothesis change isEarlier
        omega

/-- The changes grow the text by what the target is longer. -/
theorem length_target
    {changes : List Edit}
    {source target : Text}
    (rewrites : Rewrites changes source target) :
    (target.length : Int) = source.length + Batch.growth changes := by
  induction rewrites with
  | unchanged kept =>
      simp
  | changed removed inserted kept _ inductionHypothesis =>
      simp only [List.length_append, Batch.growth_cons, Edit.growth]
      omega

/-- From right to left the changes apply as they are. -/
theorem applyAll_rightToLeft
    {changes : List Edit}
    {source target : Text}
    (rewrites : Rewrites changes source target)
    (behind : Text) :
    Text.applyAll (source ++ behind) changes = .ok (target ++ behind) := by
  induction rewrites generalizing behind with
  | unchanged kept =>
      rfl
  | @changed earlier before after removed inserted kept _ inductionHypothesis =>
      have rest := inductionHypothesis (inserted ++ (kept ++ behind))
      rw [List.append_assoc _ kept, Text.applyAll_cons_append, List.append_assoc, rest]
      simp only [List.append_assoc]

end Rewrites

theorem drift_append (growth : Int) (first second : List Edit) :
    drift growth (first ++ second) =
      drift growth first ++ drift (growth + Batch.growth first) second := by
  induction first generalizing growth with
  | nil =>
      simp [drift]
  | cons change rest inductionHypothesis =>
      simp [drift, inductionHypothesis, Int.add_assoc]

/-- What the earlier changes have made of the text before the last one gives its new offset. -/
theorem Rewrites.drift_reverse_cons
    {earlier : List Edit}
    {before after : Text}
    (earlierRewrites : Rewrites earlier before after)
    (removed inserted : Text) :
    drift 0 (⟨before.length, removed.length, inserted⟩ :: earlier).reverse =
      drift 0 earlier.reverse ++ [⟨after.length, removed.length, inserted⟩] := by
  have grown := earlierRewrites.length_target
  have offset : ((before.length : Int) + Batch.growth earlier).toNat = after.length := by
    omega
  simp [drift_append, drift, Batch.growth_reverse, offset]

/-- From left to right the changes apply when each is moved by the growth of those before. -/
theorem Rewrites.applyAll_leftToRight
    {changes : List Edit}
    {source target : Text}
    (rewrites : Rewrites changes source target)
    (behind : Text) :
    Text.applyAll (source ++ behind) (drift 0 changes.reverse) =
      .ok (target ++ behind) := by
  induction rewrites generalizing behind with
  | unchanged kept =>
      rfl
  | @changed earlier before after removed inserted kept earlierRewrites inductionHypothesis =>
      have rest := inductionHypothesis (removed ++ (kept ++ behind))
      rw [earlierRewrites.drift_reverse_cons, List.append_assoc _ kept, List.append_assoc,
        Text.applyAll_append_of_applyAll rest, ← List.append_assoc, Text.applyAll_cons_append,
        Text.applyAll_nil, List.append_assoc _ kept]

/-- From left to right a change starts within the target, and it removes some of the source. -/
theorem Rewrites.bounds_leftToRight
    {changes : List Edit}
    {source target : Text}
    (rewrites : Rewrites changes source target) :
    ∀ edit ∈ drift 0 changes.reverse,
      edit.offset ≤ target.length ∧ edit.length ≤ source.length := by
  induction rewrites with
  | unchanged kept =>
      simp [drift]
  | @changed earlier before after removed inserted kept earlierRewrites inductionHypothesis =>
      intro edit member
      rw [earlierRewrites.drift_reverse_cons, List.mem_append, List.mem_singleton] at member
      simp only [List.length_append]
      rcases member with isEarlier | isLast
      · have bounds := inductionHypothesis edit isEarlier
        omega
      · simp only [isLast]
        omega

/-! ## The walk over a script -/

/--
Changes of a script, the last one first: each stands for a stretch of pieces, and takes what
they show of the source for what they show of the target.  Between the stretches pieces are
kept.
-/
inductive Gathers : List Edit → Script → Prop where
  | nothing : Gathers [] []
  | kept
      {changes : List Edit}
      {front : Script}
      (text : Text) :
      Gathers changes front →
      Gathers changes (front ++ [.keep text])
  | changed
      {earlier : List Edit}
      {front : Script}
      (stretch : Script) :
      Gathers earlier front →
      Gathers (⟨front.source.length, stretch.source.length, stretch.target⟩ :: earlier)
        (front ++ stretch)

namespace Gathers

variable {changes earlier : List Edit} {last : Edit} {script : Script}

theorem rewrites (gathers : Gathers changes script) :
    Rewrites changes script.source script.target := by
  induction gathers with
  | nothing =>
      exact .unchanged []
  | kept text _ inductionHypothesis =>
      simpa [Piece.source, Piece.target, Piece.keep] using
        inductionHypothesis.append_kept text
  | changed stretch _ inductionHypothesis =>
      simpa using inductionHypothesis.append_change stretch.source stretch.target

/-- A last change that ends where the script does stands for a stretch at its end. -/
theorem exists_last_stretch
    (gathers : Gathers (last :: earlier) script)
    (touches : last.stop = script.source.length) :
    ∃ front stretch,
      script = front ++ stretch ∧
        last = ⟨front.source.length, stretch.source.length, stretch.target⟩ ∧
        Gathers earlier front := by
  generalize all : last :: earlier = changes at gathers
  induction gathers with
  | nothing =>
      cases all
  | changed stretch frontGathers _ =>
      obtain ⟨rfl, rfl⟩ := List.cons.inj all
      exact ⟨_, stretch, rfl, rfl, frontGathers⟩
  | @kept changes behindLast text frontGathers inductionHypothesis =>
      -- What is kept behind the last change is empty, so it may count as part of its stretch.
      subst all
      have within := frontGathers.rewrites.stop_le last List.mem_cons_self
      simp only [source_append, source_cons, source_nil, Piece.source, Piece.keep,
        List.length_append] at touches
      have nothing : text = [] := by
        simp at touches
        exact List.length_eq_zero_iff.mp (by omega)
      subst nothing
      obtain ⟨front, stretch, rfl, rfl, earlierGathers⟩ :=
        inductionHypothesis (by simpa using touches) rfl
      refine ⟨front, stretch ++ [.keep []], by simp, ?_, earlierGathers⟩
      simp [Piece.source, Piece.target, Piece.keep]

/-- An insertion right behind the last change joins it. -/
theorem insert_into_last
    (gathers : Gathers (last :: earlier) script)
    (touches : last.stop = script.source.length)
    (text : Text) :
    Gathers ({ last with text := last.text ++ text } :: earlier)
      (script ++ [.insert text]) := by
  obtain ⟨front, stretch, rfl, rfl, earlierGathers⟩ := gathers.exists_last_stretch touches
  have joined := earlierGathers.changed (stretch ++ [.insert text])
  simpa [Piece.source, Piece.target, Piece.insert] using joined

end Gathers

namespace Collector

/-- What a collector holds behind the pieces of a script. -/
inductive Follows : Collector → Script → Prop where
  | settled
      {changes : List Edit}
      {script : Script} :
      Gathers changes script →
      Follows ⟨script.source.length, none, changes⟩ script
  | waiting
      {changes : List Edit}
      {front stretch : Script}
      (deletes : stretch.target = []) :
      Gathers changes front →
      Follows
        ⟨(front ++ stretch).source.length,
          some ⟨front.source.length, stretch.source.length, []⟩, changes⟩
        (front ++ stretch)

namespace Follows

variable {collector : Collector} {script : Script}

/-- Behind a flush nothing waits, and the changes gather the whole script. -/
theorem flush (follows : Follows collector script) :
    ∃ changes,
      collector.flush = ⟨script.source.length, none, changes⟩ ∧ Gathers changes script := by
  cases follows with
  | settled gathers =>
      exact ⟨_, rfl, gathers⟩
  | @waiting changes front stretch deletes gathers =>
      have gathered := gathers.changed stretch
      rw [deletes] at gathered
      exact ⟨_, rfl, gathered⟩

theorem keep
    (follows : Follows collector script)
    (text : Text) :
    Follows (collector.keep text) (script ++ [.keep text]) := by
  obtain ⟨changes, flushed, gathers⟩ := follows.flush
  have kept := settled (gathers.kept text)
  simpa [Collector.keep, flushed, Piece.source, Piece.keep] using kept

theorem delete
    (follows : Follows collector script)
    (text : Text) :
    Follows (collector.delete text) (script ++ [.delete text]) := by
  cases follows with
  | settled gathers =>
      have deleted : Script.target [.delete text] = [] := rfl
      have waits := waiting deleted gathers
      simpa [Collector.delete, Piece.source, Piece.delete] using waits
  | @waiting changes front stretch deletes gathers =>
      have deleted : Script.target (stretch ++ [.delete text]) = [] := by
        simp [deletes, Piece.target, Piece.delete]
      have waits := waiting deleted gathers
      simpa [Collector.delete, Piece.source, Piece.delete, Nat.add_assoc] using waits

theorem insert
    (follows : Follows collector script)
    (text : Text) :
    Follows (collector.insert text) (script ++ [.insert text]) := by
  cases follows with
  | @waiting changes front stretch deletes gathers =>
      have completed := settled (gathers.changed (stretch ++ [.insert text]))
      simpa [Collector.insert, deletes, Piece.source, Piece.target, Piece.insert] using completed
  | @settled changes _ gathers =>
      have inserted :
          Follows ⟨script.source.length, none, ⟨script.source.length, 0, text⟩ :: changes⟩
            (script ++ [.insert text]) := by
        simpa [Piece.source, Piece.target, Piece.insert] using
          settled (gathers.changed [.insert text])
      cases changes with
      | nil =>
          exact inserted
      | cons last earlier =>
          by_cases touches : last.stop = script.source.length
          · simp only [Collector.insert, touches, ↓reduceIte]
            simpa [Piece.source, Piece.insert] using
              settled (gathers.insert_into_last touches text)
          · simp only [Collector.insert, touches, ↓reduceIte]
            exact inserted

/-- One more piece is followed as its operation asks. -/
theorem step
    (follows : Follows collector script)
    (piece : Piece) :
    Follows (collector.step piece) (script ++ [piece]) := by
  rcases piece with ⟨operation, text⟩
  cases operation with
  | keep =>
      exact follows.keep text
  | delete =>
      exact follows.delete text
  | insert =>
      exact follows.insert text

/-- A run over more pieces follows them all. -/
theorem foldl_step
    (follows : Follows collector script)
    (rest : Script) :
    Follows (rest.foldl Collector.step collector) (script ++ rest) := by
  induction rest generalizing collector script with
  | nil =>
      simpa using follows
  | cons piece rest inductionHypothesis =>
      simpa using inductionHypothesis (follows.step piece)

end Follows

end Collector

/-- The changes of a script gather all of its pieces. -/
theorem gathers_changesBackward (script : Script) :
    Gathers script.changesBackward script := by
  have start : Collector.Follows .start [] :=
    .settled .nothing
  obtain ⟨changes, flushed, gathers⟩ := (start.foldl_step script).flush
  rw [changesBackward, flushed]
  exact gathers

/-- The changes of a script rewrite what it spells. -/
theorem rewrites_changesBackward (script : Script) :
    Rewrites script.changesBackward script.source script.target :=
  (gathers_changesBackward script).rewrites

/-- A change stands for a stretch of the script, where that lies in the source. -/
theorem Gathers.exists_stretch
    {changes : List Edit}
    {script : Script}
    (gathers : Gathers changes script) :
    ∀ change ∈ changes,
      ∃ front stretch rest : Script,
        script = front ++ stretch ++ rest ∧
          change = ⟨front.source.length, stretch.source.length, stretch.target⟩ := by
  induction gathers with
  | nothing =>
      simp
  | kept text _ inductionHypothesis =>
      intro change member
      obtain ⟨front, stretch, rest, rfl, isStretch⟩ := inductionHypothesis change member
      exact ⟨front, stretch, rest ++ [.keep text], by simp, isStretch⟩
  | @changed earlier before stretch _ inductionHypothesis =>
      intro change member
      rcases List.mem_cons.mp member with rfl | isEarlier
      · exact ⟨before, stretch, [], by simp, rfl⟩
      · obtain ⟨front, inner, rest, rfl, isStretch⟩ := inductionHypothesis change isEarlier
        exact ⟨front, inner, rest ++ stretch, by simp, isStretch⟩

/-- Once moved by the growth of those before it, it lies where the stretch does in the target. -/
theorem Gathers.exists_stretch_of_drift
    {changes : List Edit}
    {script : Script}
    (gathers : Gathers changes script) :
    ∀ edit ∈ drift 0 changes.reverse,
      ∃ front stretch rest : Script,
        script = front ++ stretch ++ rest ∧
          edit = ⟨front.target.length, stretch.source.length, stretch.target⟩ := by
  induction gathers with
  | nothing =>
      simp [drift]
  | kept text _ inductionHypothesis =>
      intro edit member
      obtain ⟨front, stretch, rest, rfl, isStretch⟩ := inductionHypothesis edit member
      exact ⟨front, stretch, rest ++ [.keep text], by simp, isStretch⟩
  | @changed earlier before stretch beforeGathers inductionHypothesis =>
      intro edit member
      rw [beforeGathers.rewrites.drift_reverse_cons] at member
      rcases List.mem_append.mp member with isEarlier | isLast
      · obtain ⟨front, inner, rest, rfl, isStretch⟩ := inductionHypothesis edit isEarlier
        exact ⟨front, inner, rest ++ stretch, by simp, isStretch⟩
      · exact ⟨before, stretch, [], by simp, List.mem_singleton.mp isLast⟩

/-! ## The edits one by one -/

/-- The edit at an integer offset; there is none where the offset is negative. -/
def editAt? (offset : Int) (length : Nat) (text : Text) : Option Edit :=
  if 0 ≤ offset then some ⟨offset.toNat, length, text⟩ else none

/-- Changes of one text made into edits one by one, with the growth of those before. -/
def driftAttempts (growth : Int) : List Edit → List (Option Edit)
  | [] => []
  | change :: rest =>
      editAt? (change.offset + growth) change.length change.text ::
        driftAttempts (growth + change.growth) rest

/-- The changes of a script made into edits one by one. -/
def attempts (script : Script) : Order → List (Option Edit)
  | .leftToRight => driftAttempts 0 script.changes
  | .rightToLeft =>
      script.changesBackward.map fun change =>
        editAt? change.offset change.length change.text

theorem driftAttempts_append (growth : Int) (first second : List Edit) :
    driftAttempts growth (first ++ second) =
      driftAttempts growth first ++
        driftAttempts (growth + Batch.growth first) second := by
  induction first generalizing growth with
  | nil =>
      simp [driftAttempts]
  | cons change rest inductionHypothesis =>
      simp [driftAttempts, inductionHypothesis, Int.add_assoc]

/-- No change moves in front of the text. -/
theorem Rewrites.driftAttempts_reverse
    {changes : List Edit}
    {source target : Text}
    (rewrites : Rewrites changes source target) :
    driftAttempts 0 changes.reverse = (drift 0 changes.reverse).map some := by
  induction rewrites with
  | unchanged kept =>
      rfl
  | @changed earlier before after removed inserted kept earlierRewrites inductionHypothesis =>
      have grown := earlierRewrites.length_target
      rw [List.reverse_cons, drift_append, driftAttempts_append, inductionHypothesis,
        List.map_append, Batch.growth_reverse]
      simp only [driftAttempts, drift, editAt?, List.map_cons, List.map_nil]
      rw [if_pos (by omega)]

/-- Every change of a script becomes an edit. -/
theorem attempts_eq_map_some (script : Script) (order : Order) :
    script.attempts order = (script.edits order).map some := by
  cases order with
  | leftToRight =>
      exact (rewrites_changesBackward script).driftAttempts_reverse
  | rightToLeft =>
      simp [attempts, edits, editAt?]

/-- The edits of a script apply to its source and lead to its target. -/
theorem applyAll_edits (script : Script) (order : Order) :
    Text.applyAll script.source (script.edits order) = .ok script.target := by
  have rewrites := rewrites_changesBackward script
  cases order with
  | leftToRight =>
      simpa [edits, changes] using rewrites.applyAll_leftToRight []
  | rightToLeft =>
      simpa [edits] using rewrites.applyAll_rightToLeft []

/-- The numbers of the edits are bounded by the length of the longer text, in either order. -/
theorem bounds_of_mem_edits
    {script : Script}
    {order : Order}
    {edit : Edit}
    (member : edit ∈ script.edits order) :
    edit.offset ≤ max script.source.length script.target.length ∧
      edit.length ≤ max script.source.length script.target.length := by
  have rewrites := rewrites_changesBackward script
  cases order with
  | leftToRight =>
      have bounds := rewrites.bounds_leftToRight edit member
      omega
  | rightToLeft =>
      have within : edit.offset + edit.length ≤ script.source.length :=
        rewrites.stop_le edit member
      omega

end Splice.Script
