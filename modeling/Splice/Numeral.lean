import Splice.Text
import Splice.Text.Blank

namespace Splice.Numeral

/-!
# Numerals

A plain numeral is an optional minus sign and decimal digits, of which the first is no
zero unless it is the only one.  A text may also write an integer less plainly, with
blanks around it, a plus sign, leading zeros, underscores and a point that only zeros
follow; `plainForm?` takes such a text to the plain numeral that it stands for.
-/

/-- A text with more digits than this is not read as a numeral; a minus sign is no digit. -/
def mostDigits : Nat := 4300

/-- The value of a run of decimal digits. -/
def digitsValue (digits : Text) : Nat :=
  digits.foldl (fun value c => 10 * value + (c.toNat - '0'.toNat)) 0

/-- What a text comes to when it is read as a numeral. -/
inductive Reading where
  | integer (value : Int)
  | tooLong
  | malformed
  deriving Repr, DecidableEq

/-- The value of a plain numeral; behind too many digits the text is not read any further. -/
def readPlain (text : Text) : Reading :=
  let (negative, unsigned) :=
    match text with
    | '-' :: rest => (true, rest)
    | _ => (false, text)
  let digits := unsigned.takeWhile Char.isDigit
  if digits.head? = none then
    .malformed
  else if digits.head? = some '0' then
    if unsigned = ['0'] then .integer 0 else .malformed
  else if mostDigits < digits.length then
    .tooLong
  else if unsigned = digits then
    .integer (if negative then -digitsValue digits else digitsValue digits)
  else
    .malformed

def trim (text : Text) : Text :=
  ((text.dropWhile isWhiteSpace).reverse.dropWhile isWhiteSpace).reverse

/--
What follows the zeros and underscores at the start of a text, if that may belong to a
numeral.  `last` is the zero or underscore before the text; it stays in front of a point
and at the end.
-/
def afterZeros? (last : Char) : Text → Option Text
  | [] => some [last]
  | c :: rest =>
      if c = '0' ∨ c = '_' then
        afterZeros? c rest
      else if c = '.' then
        some (last :: c :: rest)
      else if c.isDigit ∨ c = '-' then
        some (c :: rest)
      else
        none

/-- A text that starts with a digit, without leading zeros. -/
def withoutLeadingZeros? : Text → Option Text
  | '0' :: rest => afterZeros? '0' rest
  | c :: rest => if c.isDigit then some (c :: rest) else none
  | [] => none

/-- The part before a point that only zeros follow; without such a point, the whole text. -/
def withoutZeroFraction (text : Text) : Text :=
  match text.span (· != '.') with
  | (_, []) => text
  | (whole, _ :: zeros) => if zeros ≠ [] ∧ zeros.all (· == '0') then whole else text

/-- Two underscores stand side by side. -/
def hasDoubledUnderscore : Text → Bool
  | '_' :: '_' :: _ => true
  | _ :: rest => hasDoubledUnderscore rest
  | [] => false

/-- The text without its underscores, where each of them stands alone between others. -/
def withoutUnderscores (text : Text) : Text :=
  if text.head? = some '_' ∨ text.getLast? = some '_' ∨ hasDoubledUnderscore text then
    text
  else
    text.filter (· != '_')

/-- The plain numeral that a text stands for; from other texts no plain numeral results. -/
def plainForm? (text : Text) : Option Text :=
  let (sign, unsigned) :=
    match trim text with
    | '-' :: rest => (['-'], rest)
    | '+' :: rest => ([], rest)
    | rest => ([], rest)
  (withoutLeadingZeros? unsigned).map fun digits =>
    withoutUnderscores (sign ++ withoutZeroFraction digits)

/-- The integer that a text writes, plainly or not. -/
def read (text : Text) : Reading :=
  match readPlain text with
  | .malformed =>
      match (plainForm? text).map readPlain with
      | some (.integer value) => .integer value
      | _ => .malformed
  | reading => reading

end Splice.Numeral
