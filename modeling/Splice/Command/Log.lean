import Splice.Json.Writer
import Splice.Merge.Backward
import Splice.Merge.Forward

namespace Splice

/-!
# Log records

The steps of merging and applying are reported as records with named fields.
-/

/-- How important a record is. -/
inductive LogLevel where
  | debug
  | info
  | error
  deriving Repr, DecidableEq

def LogLevel.name : LogLevel → String
  | .debug => "debug"
  | .info => "info"
  | .error => "error"

/-- The value of a field. -/
inductive LogValue where
  | integer (value : Int)
  | text (value : Text)
  | truth (value : Bool)
  deriving Repr, DecidableEq

/-- One report: what happened, and the values that belong to it. -/
structure LogRecord where
  level : LogLevel
  event : Text
  fields : List (String × LogValue)
  deriving Repr, DecidableEq

namespace LogRecord

variable {α : Type}

/-- A range in the form in which records show it. -/
def range (start stop : Int) : Text :=
  s!"[{start}:{stop}]".toList

/-- The attempt to apply an edit, which is the one with the given number in its batch. -/
def applying (number : Nat) (edit : Edit α) : LogRecord where
  level := .debug
  event :=
    s!"Applying edit {number} at ".toList ++ range edit.offset edit.stop ++
      (" Op=" ++ edit.kind.name).toList
  fields := []

/-- The attempts to apply the edits of a batch, up to the first that fails. -/
def applyingAll (text : Text α) (batch : List (Edit α)) : List LogRecord :=
  (text.attempted batch).zipIdx.map fun (edit, number) => applying number edit

/-- The fields that tell an edit and where it lay beside a window. -/
def placementFields (placement : Placement) (edit : Edit α) : List (String × LogValue) :=
  [("placement", .text placement.name.toList), ("edit_offset", .integer edit.offset),
    ("edit_length", .integer edit.length)]

/-- A step of a merge of edits that have not been applied. -/
def forwardStep (step : Window.Step α) : LogRecord where
  level := .debug
  event := "Merged unprocessed edit".toList
  fields :=
    placementFields step.placement step.edit ++
      [("offset", .integer step.window.offset), ("length", .integer step.window.length)]

/-- A step of a merge of edits that have been applied. -/
def backwardStep (step : Footprint.Step α) : LogRecord where
  level := .debug
  event := "Merged processed edit".toList
  fields :=
    placementFields step.placement step.edit ++
      [("offset", .integer step.footprint.offset),
        ("length", .integer step.footprint.length),
        ("text_length", .integer step.footprint.textLength)]

/-- The steps of a merge of a batch that has not been applied. -/
def forwardSteps (source : Text α) : List (Edit α) → List LogRecord
  | [] => []
  | first :: rest => ((Window.ofEdit first).steps source rest).map forwardStep

/-- The steps of a merge of a batch that has been applied. -/
def backwardSteps (batch : List (Edit α)) : List LogRecord :=
  match batch.reverse with
  | [] => []
  | last :: earlier => ((Footprint.ofEdit last).steps earlier).map backwardStep

/-- The end of a merge; `state` tells whether the edits had been applied. -/
def merged (state : String) (count : Nat) : Option (Edit α) → List LogRecord
  | none => []
  | some edit =>
      [{ level := .debug
         event :=
           s!"Merged {count} {state} edits into ".toList ++ range edit.offset edit.stop
         fields := [] }]

/-- A batch that has been found between two texts. -/
def generated (count : Nat) (granularity : String) (reverse : Bool) : LogRecord where
  level := .info
  event := s!"Generated {count} edits".toList
  fields := [("granularity", .text granularity.toList), ("reverse", .truth reverse)]

/-- A batch that the document does not allow. -/
def mismatch (error : RangeError) : LogRecord where
  level := .error
  event := "Edits do not match the document".toList
  fields := [("error", .text error.message.toList)]

/-- The written form of a value. -/
def valueText : LogValue → Text
  | .integer value => (toString value).toList
  | .text value => Json.quote value.points
  | .truth value => (toString value).toList

/-- The record as one line of JSON. -/
def line (record : LogRecord) : Text :=
  let own : List (String × LogValue) :=
    [("event", .text record.event), ("level", .text record.level.name.toList)]
  let members := (record.fields ++ own).map fun (name, value) =>
    Json.quote (Text.points name.toList) ++ [':', ' '] ++ valueText value
  '\x7b' :: [',', ' '].intercalate members ++ ['\x7d']

end LogRecord

end Splice
