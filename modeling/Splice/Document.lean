import Splice.Edit
import Splice.LineBreaks
import Splice.Text.Quoted

namespace Splice

/-!
# Documents

A document is a text that records every edit applied to it.  The recorded edits are
a batch: each refers to the text as it was right before that edit.  A document also
knows which line delimiters are legal in it, and perhaps which of them is its default;
both rules are part of the type.
-/

/-- A text with its recorded edits and its legal line delimiters. -/
structure Document where
  text : Text
  events : List Edit
  delimiters : Needles
  explicitDefault : Option Text
  delimiters_ne_nil : delimiters ≠ []
  explicitDefault_mem : ∀ delimiter ∈ explicitDefault, delimiter ∈ delimiters

/-- Why a document cannot be made. -/
inductive DocumentError where
  | noDelimiters
  | illegalDefault (delimiter : Text)
  deriving Repr, DecidableEq

def DocumentError.message : DocumentError → String
  | .noDelimiters => "A document needs at least one legal line delimiter."
  | .illegalDefault delimiter =>
      "Line delimiter " ++ String.ofList (Quoted.quote delimiter) ++
        " is not legal for this document."

namespace Document

/-- A new document without recorded edits; the delimiters are judged first. -/
def create
    (text : Text)
    (delimiters : Needles)
    (explicitDefault : Option Text) :
    Except DocumentError Document :=
  if someDelimiter : delimiters = [] then
    .error .noDelimiters
  else
    match explicitDefault with
    | none => .ok ⟨text, [], delimiters, none, someDelimiter, by simp⟩
    | some delimiter =>
        if legal : delimiter ∈ delimiters then
          .ok ⟨text, [], delimiters, some delimiter, someDelimiter, by simpa using legal⟩
        else
          .error (.illegalDefault delimiter)

/-- A new document with the standard delimiters, of which none is its explicit default. -/
def ofText (text : Text) : Document where
  text := text
  events := []
  delimiters := standardDelimiters
  explicitDefault := none
  delimiters_ne_nil := by decide
  explicitDefault_mem := by simp

/-- The document with a range of its text replaced, and the edit that it recorded. -/
def replace
    (document : Document)
    (offset length : Int)
    (replacement : Text) :
    Except RangeError (Edit × Document) :=
  if Fits offset length document.text.length then
    let edit : Edit := ⟨offset.toNat, length.toNat, replacement⟩
    .ok
      (edit,
        { document with
          text := document.text.replaceRange edit.offset edit.length replacement
          events := document.events ++ [edit] })
  else
    .error ⟨offset, length, document.text.length⟩

/-- The document with its whole text replaced. -/
def set
    (document : Document)
    (replacement : Text) :
    Except RangeError (Edit × Document) :=
  document.replace 0 document.text.length replacement

/-- The recorded edits, and the document with a new batch begun. -/
def drain (document : Document) : List Edit × Document :=
  (document.events, { document with events := [] })

def numberOfLines (document : Document) : Nat :=
  Splice.numberOfLines document.delimiters document.text

/-- The delimiter that ends a line, counted from zero. -/
def lineDelimiter
    (document : Document)
    (line : Int) :
    Except RangeError (Option Text) :=
  Splice.lineDelimiter document.delimiters document.text line

/--
The delimiter for new line breaks: the explicit default, else the delimiter of the
first line, else that of the platform if it is legal, else the first legal one.
-/
def defaultDelimiter
    (document : Document)
    (platform : Text) :
    Except RangeError Text :=
  match document.explicitDefault with
  | some delimiter => .ok delimiter
  | none => do
      match ← document.lineDelimiter 0 with
      | some delimiter => return delimiter
      | none =>
          if platform ∈ document.delimiters then
            return platform
          else
            return document.delimiters.head document.delimiters_ne_nil

end Document

end Splice
