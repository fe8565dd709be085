import Splice.Text

namespace Splice

/-!
# Scripts

A script tells how one text turns into another, piece by piece: each piece is kept,
deleted or inserted.  The kept and deleted pieces spell the source, the kept and
inserted pieces spell the target.
-/

/-- What happens to a piece of text. -/
inductive Operation where
  | keep
  | delete
  | insert
  deriving Repr, DecidableEq

/-- A piece of text with what happens to it. -/
structure Piece where
  operation : Operation
  text : Text
  deriving Repr, DecidableEq

namespace Piece

def keep (text : Text) : Piece :=
  ⟨.keep, text⟩

def delete (text : Text) : Piece :=
  ⟨.delete, text⟩

def insert (text : Text) : Piece :=
  ⟨.insert, text⟩

def isKept (piece : Piece) : Bool :=
  piece.operation == .keep

/-- What the piece contributes to the source. -/
def source (piece : Piece) : Text :=
  if piece.operation = .insert then [] else piece.text

/-- What the piece contributes to the target. -/
def target (piece : Piece) : Text :=
  if piece.operation = .delete then [] else piece.text

end Piece

/-- The pieces of a change in the order of the texts. -/
abbrev Script := List Piece

namespace Script

/-- The text that the script starts from. -/
def source (script : Script) : Text :=
  script.flatMap Piece.source

/-- The text that the script arrives at. -/
def target (script : Script) : Text :=
  script.flatMap Piece.target

/-- The script turns `source` into `target`. -/
def Spells
    (script : Script)
    (source target : Text) : Prop :=
  script.source = source ∧ script.target = target

instance (script : Script) (source target : Text) :
    Decidable (script.Spells source target) :=
  inferInstanceAs (Decidable (_ ∧ _))

/-- How many code points the script deletes and inserts. -/
def changedLength (script : Script) : Nat :=
  ((script.filter fun piece => !piece.isKept).flatMap Piece.text).length

def unlessEmpty (operation : Operation) (text : Text) : Script :=
  if text = [] then [] else [⟨operation, text⟩]

@[simp]
theorem source_nil : source [] = [] :=
  rfl

@[simp]
theorem target_nil : target [] = [] :=
  rfl

@[simp]
theorem source_cons (piece : Piece) (script : Script) :
    source (piece :: script) = piece.source ++ source script := by
  simp [source]

@[simp]
theorem target_cons (piece : Piece) (script : Script) :
    target (piece :: script) = piece.target ++ target script := by
  simp [target]

@[simp]
theorem source_append (first second : Script) :
    source (first ++ second) = source first ++ source second := by
  simp [source]

@[simp]
theorem target_append (first second : Script) :
    target (first ++ second) = target first ++ target second := by
  simp [target]

end Script

end Splice
