import Splice.Text.CodePoint

namespace Splice

/-!
# Edits

An edit replaces the range `[offset, offset + length)` of a text by its own text.
Which text its coordinates refer to is decided by its place in a batch: each edit
of a batch refers to the text that the edits before it have left.
-/

/-- Replace `length` code points from `offset` by `text`. -/
structure Edit (α : Type := Char) where
  offset : Nat
  length : Nat
  text : Text α
  deriving Repr, DecidableEq

/-- What an edit amounts to, told from whether it removes and whether it inserts. -/
inductive EditKind where
  | insertion
  | deletion
  | modification
  | noop
  deriving Repr, DecidableEq

def EditKind.name : EditKind → String
  | .insertion => "INSERTION"
  | .deletion => "DELETION"
  | .modification => "MODIFICATION"
  | .noop => "NOOP"

namespace Edit

variable {α : Type}

def stop (edit : Edit α) : Nat :=
  edit.offset + edit.length

/-- By how much the edit lengthens the text. -/
def growth (edit : Edit α) : Int :=
  edit.text.length - edit.length

/-- An edit with a range and a text modifies; with one of them it deletes or inserts. -/
def kind (edit : Edit α) : EditKind :=
  if edit.length = 0 then
    if edit.text = [] then .noop else .insertion
  else
    if edit.text = [] then .deletion else .modification

/-- The edit with the characters of its text as code points. -/
def points (edit : Edit) : Edit CodePoint :=
  ⟨edit.offset, edit.length, edit.text.points⟩

end Edit

namespace Text

variable {α : Type}

/-- The text after one edit, whose range has to lie within the text. -/
def apply
    (text : Text α)
    (edit : Edit α) :
    Except RangeError (Text α) :=
  if edit.stop ≤ text.length then
    .ok (text.replaceRange edit.offset edit.length edit.text)
  else
    .error ⟨edit.offset, edit.length, text.length⟩

/-- The text after a batch: each edit applies to what the edits before it left. -/
def applyAll
    (text : Text α)
    (batch : List (Edit α)) :
    Except RangeError (Text α) :=
  batch.foldlM apply text

/-- The texts that a batch passes through, up to the first edit that is refused. -/
def applySteps
    (text : Text α) :
    List (Edit α) → List (Except RangeError (Text α))
  | [] => []
  | edit :: rest =>
      match text.apply edit with
      | .ok next => .ok next :: next.applySteps rest
      | .error error => [.error error]

/-- The edits of a batch that are attempted: those up to the first that is refused. -/
def attempted
    (text : Text α) :
    List (Edit α) → List (Edit α)
  | [] => []
  | edit :: rest =>
      match text.apply edit with
      | .ok next => edit :: next.attempted rest
      | .error _ => [edit]

end Text

end Splice
