import Splice.Proofs.Script.Changes
import Splice.Proofs.Word.Lexicon
import Splice.Script.Readable

namespace Splice.Script

/-!
# Scripts that change nothing

A script whose pieces are all kept has no edits.  Two equal texts have such a script.
-/

/-- All pieces of the script are kept. -/
def Keeps (script : Script) : Prop :=
  ∀ piece ∈ script, piece.isKept = true

/-- A kept piece only moves a walk on which no deletion waits. -/
theorem Collector.step_of_isKept
    {piece : Piece}
    (kept : piece.isKept = true)
    (position : Nat)
    (changes : List Edit) :
    Collector.step ⟨position, none, changes⟩ piece =
      ⟨position + piece.text.length, none, changes⟩ := by
  rw [Collector.step, Piece.isKept_iff.mp kept]
  rfl

/-- Kept pieces only move a walk that has found no change. -/
theorem exists_foldl_step_of_keeps
    {script : Script}
    (keeps : script.Keeps)
    (position : Nat) :
    ∃ stop, script.foldl Collector.step ⟨position, none, []⟩ = ⟨stop, none, []⟩ := by
  induction script generalizing position with
  | nil =>
      exact ⟨position, rfl⟩
  | cons piece rest inductionHypothesis =>
      obtain ⟨kept, restKept⟩ := List.forall_mem_cons.mp keeps
      rw [List.foldl_cons, Collector.step_of_isKept kept]
      exact inductionHypothesis restKept (position + piece.text.length)

/-- A script that keeps everything has no edits. -/
theorem edits_of_keeps
    {script : Script}
    (keeps : script.Keeps)
    (order : Order) :
    script.edits order = [] := by
  obtain ⟨stop, walked⟩ := exists_foldl_step_of_keeps keeps 0
  have unchanged : script.changesBackward = [] := by
    rw [changesBackward, Collector.start, walked]
    rfl
  cases order with
  | leftToRight =>
      rw [edits, changes, unchanged]
      rfl
  | rightToLeft =>
      exact unchanged

theorem keeps_unlessEmpty (text : Text) : (unlessEmpty .keep text).Keeps := by
  intro piece member
  unfold unlessEmpty at member
  split at member
  · cases member
  · rw [List.mem_singleton.mp member]
    rfl

/-- What is kept as a whole stays so in the readable form. -/
theorem readable_unlessEmpty_keep (text : Text) :
    readable (unlessEmpty .keep text) = unlessEmpty .keep text := by
  unfold unlessEmpty
  split
  · simp [readable, dissolve, dissolveRounds, slideChanges, keepOverlaps]
  · simp [readable, dissolve, dissolveRounds, dissolveNext?, slideChanges, keepOverlaps,
      Piece.isKept]

/-- The script between a text and itself keeps everything. -/
theorem keeps_between (text : Text) : (between text text).Keeps := by
  rw [between, compare, if_pos rfl, readable_unlessEmpty_keep]
  exact keeps_unlessEmpty text

/-- Decoding turns kept pieces into kept pieces. -/
theorem Keeps.map_decoded
    {script : Script}
    (keeps : script.Keeps)
    (lexicon : Word.Lexicon) :
    Keeps (script.map lexicon.decoded) := by
  intro piece member
  obtain ⟨coded, listed, rfl⟩ := List.mem_map.mp member
  exact keeps coded listed

end Splice.Script
