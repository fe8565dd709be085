import Splice.Edit
import Splice.Merge.Placement

namespace Splice

/-!
# Merging edits that have been applied

A batch that has been applied is merged from its last edit to its first, and only
lengths are followed.  The footprint of the edits seen so far covers
`[offset, offset + length)` of the document before them and
`[offset, offset + textLength)` of the document after the whole batch, which holds
the merged text in one piece and is read once at the end.
-/

/-- The extent of the later edits of a batch, before them and after the batch. -/
structure Footprint where
  offset : Nat
  length : Int
  textLength : Int
  deriving Repr, DecidableEq

namespace Footprint

variable {α : Type}

def ofEdit (edit : Edit α) : Footprint where
  offset := edit.offset
  length := edit.length
  textLength := edit.text.length

/-- By how much the edits seen so far have shortened the document. -/
def shrinkage (footprint : Footprint) : Int :=
  footprint.length - footprint.textLength

/-- Where the text of an earlier edit lies beside the footprint, right after that edit. -/
def placement
    (footprint : Footprint)
    (edit : Edit α) :
    Placement :=
  .ofRanges footprint.offset (footprint.offset + footprint.length) edit.offset
    (edit.offset + edit.text.length)

/-- An edit beyond the end: the footprint grows over the gap in front of its text. -/
def extendAfter
    (footprint : Footprint)
    (edit : Edit α) :
    Footprint :=
  let editStart := edit.offset - footprint.shrinkage
  { offset := footprint.offset
    length :=
      editStart - (footprint.offset + footprint.textLength) + footprint.length +
        edit.length
    textLength := editStart + edit.text.length - footprint.offset }

/-- An edit before the start: the footprint grows over the gap behind its text. -/
def extendBefore
    (footprint : Footprint)
    (edit : Edit α) :
    Footprint where
  offset := edit.offset
  length :=
    footprint.offset - (edit.offset + edit.text.length) + footprint.length + edit.length
  textLength := footprint.offset + footprint.textLength - edit.offset

/-- An edit on the footprint: the part of its text that the footprint covers counts once. -/
def overwrite
    (footprint : Footprint)
    (edit : Edit α) :
    Footprint :=
  let start : Int := max 0 ((edit.offset : Int) - footprint.offset)
  let stop : Int :=
    min footprint.length ((edit.text.length : Int) + edit.offset - footprint.offset)
  let length := footprint.length + edit.length - (stop - start)
  { offset := min footprint.offset edit.offset
    length := length
    textLength := length - (footprint.shrinkage - edit.growth) }

/-- The footprint after one more edit, which was applied right before those seen so far. -/
def absorb
    (footprint : Footprint)
    (edit : Edit α) :
    Footprint :=
  match footprint.placement edit with
  | .after => footprint.extendAfter edit
  | .before => footprint.extendBefore edit
  | .overlap => footprint.overwrite edit

/-- The footprint as an edit; its text is read from the document after the batch. -/
def edit
    (result : Text α)
    (footprint : Footprint) :
    Except RangeError (Edit α) := do
  if footprint.length < 0 then
    throw ⟨footprint.offset, footprint.length, result.length⟩
  let text ← result.fetch footprint.offset footprint.textLength
  return ⟨footprint.offset, footprint.length.toNat, text⟩

/-- One step of a merge: the edit, where it lay, and the footprint after it. -/
structure Step (α : Type := Char) where
  edit : Edit α
  placement : Placement
  footprint : Footprint
  deriving Repr, DecidableEq

/-- The steps of a merge over the remaining edits, of which the last applied comes first. -/
def steps (footprint : Footprint) : List (Edit α) → List (Step α)
  | [] => []
  | edit :: rest =>
      let next := footprint.absorb edit
      ⟨edit, footprint.placement edit, next⟩ :: next.steps rest

end Footprint

/--
The single edit with the effect of a batch that has been applied and has produced
`result`; an empty batch has none.
-/
def mergeBackward
    (batch : List (Edit α))
    (result : Text α) :
    Except RangeError (Option (Edit α)) :=
  match batch.reverse with
  | [] => .ok none
  | last :: earlier => do
      let footprint := earlier.foldl Footprint.absorb (Footprint.ofEdit last)
      let merged ← footprint.edit result
      return some merged

end Splice
