import Splice.Json
import Splice.Numeral

namespace Splice

/-!
# Reading fields

Edits and regions are read from the members of an object.  A field either yields a
value or has one fault; the faults of an object are collected in the order of its
fields, each with the name of its field.

A count may be written as an integer, as a number without a fractional part, as a
truth value or as text; it must not be negative.
-/

/-- Why a field yields no value. -/
inductive FieldFault where
  | missing
  | notAnInteger
  | unreadableInteger
  | tooLarge
  | fractional
  | notFinite
  | negative
  | notAText
  | notCharacters
  deriving Repr, DecidableEq

namespace FieldFault

def name : FieldFault → String
  | .missing => "missing"
  | .notAnInteger => "int_type"
  | .unreadableInteger => "int_parsing"
  | .tooLarge => "int_parsing_size"
  | .fractional => "int_from_float"
  | .notFinite => "finite_number"
  | .negative => "greater_than_equal"
  | .notAText => "string_type"
  | .notCharacters => "string_unicode"

end FieldFault

/-- The faults of an object's fields, each with the name of its field. -/
abbrev FieldFaults := List (String × FieldFault)

/-- The faults in words, separated by semicolons. -/
def FieldFaults.message (faults : FieldFaults) : String :=
  "; ".intercalate (faults.map fun fault => fault.1 ++ ": " ++ fault.2.name)

namespace Field

/-- The integers of a signed 64-bit word, except the least. -/
def inWord (value : Int) : Bool :=
  value.natAbs < Nat.pow 2 63

/-- The integer that a value stands for. -/
def integer (json : Json) : Except FieldFault Int :=
  match json with
  | .integer value => .ok value
  | .bool value => .ok (if value then 1 else 0)
  | .decimal decimal =>
      match decimal.nearest with
      | .infinite => .error .notFinite
      | .fractional => .error .fractional
      | .whole value => if inWord value then .ok value else .error .tooLarge
  | .notFinite => .error .notFinite
  | .string text =>
      match text.chars?.map Numeral.read with
      | some (.integer value) => .ok value
      | some .tooLong => .error .tooLarge
      | some .malformed => .error .unreadableInteger
      | none => .error .notCharacters
  | .null => .error .notAnInteger
  | .array _ => .error .notAnInteger
  | .object _ => .error .notAnInteger

/-- The integer that a value stands for, if it is a count. -/
def count (json : Json) : Except FieldFault Nat := do
  let value ← integer json
  if value < 0 then .error .negative else .ok value.toNat

/-- The text that a value is, whichever code points it holds. -/
def text : Json → Except FieldFault (Text CodePoint)
  | .string text => .ok text
  | _ => .error .notAText

/-- The fault of a field under the field's name, if it has one. -/
def faults
    {Value : Type}
    (name : String) :
    Except FieldFault Value → FieldFaults
  | .ok _ => []
  | .error fault => [(name, fault)]

/-- A field that has to be there. -/
def required
    {Value : Type}
    (read : Json → Except FieldFault Value) :
    Option Json → Except FieldFault Value
  | some json => read json
  | none => .error .missing

/-- A field that may be absent. -/
def optional
    {Value : Type}
    (read : Json → Except FieldFault Value)
    (absent : Value) :
    Option Json → Except FieldFault Value
  | some json => read json
  | none => .ok absent

end Field

end Splice
