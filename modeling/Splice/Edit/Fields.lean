import Splice.Edit
import Splice.Field

namespace Splice.Edit

/-!
# Edits from fields

An edit has the fields `offset`, `length` and `text`; the offset has to be there,
an absent length is zero and an absent text is empty.
-/

/-- The edit of three fields, or the faults of those that yield no value. -/
def ofFields
    (offset length text : Option Json) :
    Except FieldFaults (Edit CodePoint) :=
  match Field.required Field.count offset,
      Field.optional Field.count 0 length,
      Field.optional Field.text [] text with
  | .ok offset, .ok length, .ok text => .ok ⟨offset, length, text⟩
  | offset, length, text =>
      .error
        (Field.faults "offset" offset ++ Field.faults "length" length ++
          Field.faults "text" text)

/-- The edit that the members of an object describe; other members are passed over. -/
def ofMembers (members : Json.Members) : Except FieldFaults (Edit CodePoint) :=
  ofFields (members.get? "offset".toList) (members.get? "length".toList)
    (members.get? "text".toList)

end Splice.Edit
