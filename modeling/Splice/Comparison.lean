import Splice.Script.Changes
import Splice.Script.Readable
import Splice.Text.Quoted
import Splice.Word.Lexicon

namespace Splice

/-!
# Edits between two texts

Two texts are compared by characters or by words; the readable script between them
gives a batch of edits that turns one into the other.
-/

/-- The units in which two texts are compared. -/
inductive Granularity where
  | word
  | char
  deriving Repr, DecidableEq

namespace Granularity

def name : Granularity → String
  | .word => "word"
  | .char => "char"

def all : List Granularity :=
  [.word, .char]

def ofName? (name : Text) : Option Granularity :=
  all.find? fun granularity => granularity.name.toList == name

/-- The refusal of a name that no granularity has. -/
def unknownMessage (name : Text) : String :=
  "Unknown diff granularity: " ++ String.ofList (Quoted.quote name)

end Granularity

/-- A way to compare two texts. -/
abbrev Comparer :=
  Text → Text → Script

/-- The script that a comparison gives; `limit` bounds the lexicon of a comparison by words. -/
def scriptBy
    (compare : Comparer)
    (granularity : Granularity)
    (limit : Int)
    (source target : Text) :
    Except Word.CodeError Script :=
  match granularity with
  | .char => .ok (compare source target)
  | .word => do
      let encoding ← Word.encode limit source target
      encoding.lexicon.decodeScript (compare encoding.source encoding.target)

/-- The edits of the batch that a comparison gives. -/
def editsBy
    (compare : Comparer)
    (order : Script.Order)
    (granularity : Granularity)
    (limit : Int)
    (source target : Text) :
    Except Word.CodeError (List Edit) := do
  let script ← scriptBy compare granularity limit source target
  return script.edits order

/-- The edits of a batch that turns `source` into `target`, from the readable script. -/
def editsBetween
    (order : Script.Order)
    (granularity : Granularity)
    (limit : Int)
    (source target : Text) :
    Except Word.CodeError (List Edit) :=
  editsBy Script.between order granularity limit source target

end Splice
