import Splice.Decimal
import Splice.Text.CodePoint

namespace Splice

/-!
# JSON values

Integers and numbers with a point or an exponent are told apart, since the two
are judged by different rules when a field is read.  The escapes of a string may
name half of a surrogate pair, which is kept as a code point of its own.
-/

/-- A JSON value; the members of an object keep their order and repetitions. -/
inductive Json where
  | null
  | bool (value : Bool)
  | integer (value : Int)
  | decimal (value : Decimal)
  | notFinite
  | string (text : Text CodePoint)
  | array (items : List Json)
  | object (members : List (Text CodePoint × Json))
  deriving Inhabited

/-- The named values of an object. -/
abbrev Json.Members := List (Text CodePoint × Json)

/-- The value of a name; of several members with that name the last one counts. -/
def Json.Members.get?
    (members : Json.Members)
    (name : Text) :
    Option Json :=
  (members.reverse.find? fun member => member.1 == name.points).map (·.2)

end Splice
