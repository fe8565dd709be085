import Splice.Edit
import Splice.Merge.Placement

namespace Splice

/-!
# Merging edits that have not been applied

A batch that has not been applied yet is merged from its first edit to its last.
The window is an edit of the source that stands for the edits seen so far: it
replaces `[offset, offset + length)` of the source by its text, and in the document
that the next edit refers to it covers `[offset, offset + text.length)`.  Text between
the window and an edit beside it is read from the source; no document in between is
ever built.
-/

/-- The edits seen so far as one edit of the source. -/
structure Window (α : Type := Char) where
  offset : Nat
  length : Int
  text : Text α
  deriving Repr, DecidableEq

namespace Window

variable {α : Type}

def ofEdit (edit : Edit α) : Window α where
  offset := edit.offset
  length := edit.length
  text := edit.text

/-- By how much the edits seen so far have lengthened the document. -/
def growth (window : Window α) : Int :=
  window.text.length - window.length

/-- Where an edit lies beside the text of the window, in the coordinates of the edit. -/
def placement
    (window : Window α)
    (edit : Edit α) :
    Placement :=
  .ofRanges window.offset (window.offset + window.text.length) edit.offset edit.stop

/-- An edit beyond the end: the window grows over the gap in front of the edit. -/
def extendAfter
    (source : Text α)
    (window : Window α)
    (edit : Edit α) :
    Except RangeError (Window α) := do
  let gapStart := window.offset + window.length
  let editStart := edit.offset - window.growth
  let gap ← source.fetch gapStart (editStart - gapStart)
  return {
    offset := window.offset
    length := editStart + edit.length - window.offset
    text := window.text ++ gap ++ edit.text
  }

/-- An edit before the start: the window grows over the gap behind the edit. -/
def extendBefore
    (source : Text α)
    (window : Window α)
    (edit : Edit α) :
    Except RangeError (Window α) := do
  let gap ← source.fetch edit.stop (window.offset - edit.stop)
  return {
    offset := edit.offset
    length := window.offset + window.length - edit.offset
    text := edit.text ++ gap ++ window.text
  }

/--
An edit on the window: it replaces the part of the window's text that it covers, and
what it covers beyond the window is replaced in the source.
-/
def overwrite
    (window : Window α)
    (edit : Edit α) :
    Window α :=
  let start := edit.offset - window.offset
  let stop := min window.text.length (edit.stop - window.offset)
  let text := window.text.take start ++ edit.text ++ window.text.drop stop
  { offset := min window.offset edit.offset
    length := text.length - (window.growth + edit.growth)
    text := text }

/-- The window after one more edit, which refers to the document behind the window's edits. -/
def absorb
    (source : Text α)
    (window : Window α)
    (edit : Edit α) :
    Except RangeError (Window α) :=
  match window.placement edit with
  | .after => window.extendAfter source edit
  | .before => window.extendBefore source edit
  | .overlap => .ok (window.overwrite edit)

/-- The window as an edit of the source; a window of negative length is refused. -/
def edit
    (source : Text α)
    (window : Window α) :
    Except RangeError (Edit α) :=
  if 0 ≤ window.length then
    .ok ⟨window.offset, window.length.toNat, window.text⟩
  else
    .error ⟨window.offset, window.length, source.length⟩

/-- One step of a merge: the edit, where it lay, and the window after it. -/
structure Step (α : Type := Char) where
  edit : Edit α
  placement : Placement
  window : Window α
  deriving Repr, DecidableEq

/-- The steps of a merge up to the first edit whose gap the source does not hold. -/
def steps
    (source : Text α)
    (window : Window α) :
    List (Edit α) → List (Step α)
  | [] => []
  | edit :: rest =>
      match window.absorb source edit with
      | .ok next => ⟨edit, window.placement edit, next⟩ :: next.steps source rest
      | .error _ => []

end Window

/--
The single edit of `source` with the effect of a batch that has not been applied to
it; an empty batch has none.
-/
def mergeForward
    (source : Text α) :
    List (Edit α) → Except RangeError (Option (Edit α))
  | [] => .ok none
  | first :: rest => do
      let window ← rest.foldlM (Window.absorb source) (Window.ofEdit first)
      let merged ← window.edit source
      return some merged

end Splice
