import Splice.Edit.Fields

namespace Splice.Edit

/-!
# Batches from JSON documents

A document that holds a batch is an array of objects, one for each edit.  The text of
an edit may also be called its replacement.  Which values make up an edit is judged by
a validator, which is left open here; `validate` reads them as fields.
-/

/-- The edit that an offset, a length and a text make up, or what is wrong with them. -/
abbrev Validator :=
  (offset length text : Json) → Except FieldFaults (Edit CodePoint)

/-- The validator that reads the values as fields. -/
def validate : Validator :=
  fun offset length text => ofFields (some offset) (some length) (some text)

/-- Why a document holds no batch. -/
inductive BatchError where
  | notABatch
  | nestedTooDeep
  | notAnObject
  | noOffset
  | faults (faults : FieldFaults)
  deriving Repr, DecidableEq

/-- The text of an item: its `text`, or its `replacement` where that is absent or null. -/
def itemText (members : Json.Members) : Json :=
  match members.get? "text".toList with
  | none => replacement
  | some .null => replacement
  | some text => text
where
  replacement : Json :=
    (members.get? "replacement".toList).getD (.string [])

/-- The edit that the members of an item describe; an absent length is zero. -/
def ofItemMembers
    (validator : Validator)
    (members : Json.Members) :
    Except BatchError (Edit CodePoint) :=
  match members.get? "offset".toList with
  | none => .error .noOffset
  | some offset =>
      (validator offset ((members.get? "length".toList).getD (.integer 0))
        (itemText members)).mapError .faults

/-- The edit of one item of a document. -/
def ofItem (validator : Validator) : Json → Except BatchError (Edit CodePoint)
  | .object members => ofItemMembers validator members
  | _ => .error .notAnObject

/--
The batch that a document holds.  Objects and strings count as the sequences of their
names and characters, none of which is an edit; other values are no sequences.
-/
def batchOfJson
    (validator : Validator) :
    Json → Except BatchError (List (Edit CodePoint))
  | .array items => items.mapM (ofItem validator)
  | .object members => if members.isEmpty then .ok [] else .error .notAnObject
  | .string text => if text = [] then .ok [] else .error .notAnObject
  | _ => .error .notABatch

end Splice.Edit
