import Splice.Json
import Splice.Numeral

namespace Splice.Json

/-!
# Reading JSON

The reader follows the JSON grammar strictly: no leading zeros, no trailing
commas, no raw control characters in strings.  It also knows the words NaN,
Infinity and -Infinity.  How many digits an integer may have is left open.  Each
reader takes a text and returns what it read with the text that follows; `ofText`
asks for a whole text.
-/

/-- Blanks between tokens. -/
def isBlank (c : Char) : Bool :=
  c == ' ' || c == '\t' || c == '\n' || c == '\r'

def skipBlanks (text : Text) : Text :=
  text.dropWhile isBlank

/-- The value of a hexadecimal digit of either case. -/
def hexValue? (c : Char) : Option Nat :=
  if c.isDigit then
    some (c.toNat - '0'.toNat)
  else if 'a' ≤ c ∧ c ≤ 'f' then
    some (c.toNat - 'a'.toNat + 10)
  else if 'A' ≤ c ∧ c ≤ 'F' then
    some (c.toNat - 'A'.toNat + 10)
  else
    none

/-- The code unit that four hexadecimal digits name. -/
def codeUnit? (a b c d : Char) : Option Nat := do
  let first ← hexValue? a
  let second ← hexValue? b
  let third ← hexValue? c
  let fourth ← hexValue? d
  return ((first * 16 + second) * 16 + third) * 16 + fourth

/-- The first halves of surrogate pairs. -/
def isHighSurrogate (unit : Nat) : Bool :=
  0xD800 ≤ unit && unit < 0xDC00

/-- The second halves of surrogate pairs. -/
def isLowSurrogate (unit : Nat) : Bool :=
  0xDC00 ≤ unit && unit < 0xE000

/-- The character that a surrogate pair names. -/
def pairChar (high low : Nat) : Char :=
  Char.ofNat (0x10000 + (high - 0xD800) * 0x400 + (low - 0xDC00))

/-- The character that a backslash and one letter stand for. -/
def escapedChar? : Char → Option Char
  | '"' => some '"'
  | '\\' => some '\\'
  | '/' => some '/'
  | 'b' => some '\x08'
  | 'f' => some '\x0c'
  | 'n' => some '\n'
  | 'r' => some '\r'
  | 't' => some '\t'
  | _ => none

/-- What comes next in a string as it is written. -/
inductive StringUnit where
  | point (point : CodePoint)
  | closing

/--
The next code point of a string body, with what follows it.  An escape that names the second
half of a pair belongs to one in front of it that names the first half.
-/
def nextUnit? : Text → Option (StringUnit × Text)
  | '"' :: rest => some (.closing, rest)
  | '\\' :: 'u' :: a :: b :: c :: d :: rest => do
      let unit ← codeUnit? a b c d
      if isHighSurrogate unit then
        match rest with
        | '\\' :: 'u' :: e :: f :: g :: h :: later =>
            let second ← codeUnit? e f g h
            if isLowSurrogate second then
              return (.point (.char (pairChar unit second)), later)
            else
              return (.point (.ofUnit unit), rest)
        | _ => return (.point (.ofUnit unit), rest)
      else
        return (.point (.ofUnit unit), rest)
  | '\\' :: letter :: rest => (escapedChar? letter).map fun c => (.point (.char c), rest)
  | c :: rest => if c.toNat < 0x20 then none else some (.point (.char c), rest)
  | [] => none

/-- Every code point that is read takes at least one character of the text. -/
theorem length_of_nextUnit?
    {text rest : Text}
    {unit : StringUnit}
    (read : nextUnit? text = some (unit, rest)) :
    rest.length < text.length := by
  unfold nextUnit? at read
  split at read
  · cases read
    exact Nat.lt_succ_self _
  · obtain ⟨first, _, read⟩ := Option.bind_eq_some_iff.mp read
    split at read
    · split at read
      · obtain ⟨second, _, read⟩ := Option.bind_eq_some_iff.mp read
        split at read
        · cases read
          simp only [List.length_cons]
          omega
        · cases read
          simp only [List.length_cons]
          omega
      · cases read
        simp only [List.length_cons]
        omega
    · cases read
      simp only [List.length_cons]
      omega
  · obtain ⟨c, _, same⟩ := Option.map_eq_some_iff.mp read
    cases same
    simp only [List.length_cons]
    omega
  · split at read
    · cases read
    · cases read
      exact Nat.lt_succ_self _
  · cases read

/-- The rest of a string after its opening quote; `reversed` holds the code points read so far. -/
def stringBody
    (reversed : Text CodePoint)
    (text : Text) :
    Option (Text CodePoint × Text) :=
  match _read : nextUnit? text with
  | none => none
  | some (.closing, rest) => some (reversed.reverse, rest)
  | some (.point point, rest) => stringBody (point :: reversed) rest
termination_by text.length
decreasing_by
  exact length_of_nextUnit? (by assumption)

/-- The digits after a point, where there is a point with digits. -/
def fraction (text : Text) : Text × Text :=
  match text with
  | '.' :: rest =>
      let digits := rest.takeWhile Char.isDigit
      if digits = [] then ([], text) else (digits, rest.dropWhile Char.isDigit)
  | _ => ([], text)

/-- The sign and digits of an exponent, where there is one. -/
def exponent? (text : Text) : Option (Int × Text) :=
  match text with
  | mark :: rest =>
      if mark == 'e' || mark == 'E' then
        let (negative, unsigned) :=
          match rest with
          | '-' :: later => (true, later)
          | '+' :: later => (false, later)
          | later => (false, later)
        let digits := unsigned.takeWhile Char.isDigit
        if digits = [] then
          none
        else
          let value : Int := Numeral.digitsValue digits
          some (if negative then -value else value, unsigned.dropWhile Char.isDigit)
      else
        none
  | [] => none

/-- The digits of an integer part: a zero in front is all of it. -/
def integerPart (text : Text) : Text :=
  match text with
  | '0' :: _ => ['0']
  | _ => text.takeWhile Char.isDigit

/-- The number of digits is within the limit, if there is one. -/
def withinLimit
    (limit : Option Nat)
    (count : Nat) :
    Bool :=
  limit.all (count ≤ ·)

/--
An unsigned number: its integer part has no leading zero, and an integer has no more digits
than the limit allows.
-/
def number
    (limit : Option Nat)
    (negative : Bool)
    (text : Text) :
    Option (Json × Text) :=
  let integerDigits := integerPart text
  if integerDigits = [] then
    none
  else
    let (fractionDigits, afterFraction) := fraction (text.drop integerDigits.length)
    let scientific := exponent? afterFraction
    if fractionDigits = [] ∧ scientific = none then
      let value : Int := Numeral.digitsValue integerDigits
      if withinLimit limit integerDigits.length then
        some (.integer (if negative then -value else value), afterFraction)
      else
        none
    else
      let (power, rest) := scientific.getD (0, afterFraction)
      some
        (.decimal
          { negative := negative
            digits := Numeral.digitsValue (integerDigits ++ fractionDigits)
            exponent := power - fractionDigits.length },
          rest)

/-- The text after a word that it has to start with. -/
def afterWord?
    (word : String)
    (text : Text) :
    Option Text :=
  if word.toList.isPrefixOf text then
    some (text.drop word.toList.length)
  else
    none

/-- A value that is neither a string, an array nor an object. -/
def scalar (limit : Option Nat) (text : Text) : Option (Json × Text) :=
  match text with
  | 'n' :: _ => (afterWord? "null" text).map (Json.null, ·)
  | 't' :: _ => (afterWord? "true" text).map (Json.bool true, ·)
  | 'f' :: _ => (afterWord? "false" text).map (Json.bool false, ·)
  | 'N' :: _ => (afterWord? "NaN" text).map (Json.notFinite, ·)
  | 'I' :: _ => (afterWord? "Infinity" text).map (Json.notFinite, ·)
  | '-' :: 'I' :: _ => (afterWord? "-Infinity" text).map (Json.notFinite, ·)
  | '-' :: rest => number limit true rest
  | _ => number limit false text

/-- Why a text is not read. -/
inductive ReadFault where
  | malformed
  | nestedTooDeep
  deriving Repr, DecidableEq

/-- What has been read, or the fault of a text that does not follow the grammar. -/
def orMalformed
    {Value : Type} :
    Option Value → Except ReadFault Value
  | some value => .ok value
  | none => .error .malformed

/-- How many arrays and objects may be nested in one another. -/
def mostNested : Nat := 985

mutual

/--
A value that starts at the first character; `fuel` bounds the nesting and the items, and
`room` is how many arrays and objects may still be nested in one another.  Opening an
array or an object and starting its first item take one unit of fuel each.
-/
def value
    (limit : Option Nat)
    (fuel room : Nat)
    (text : Text) :
    Except ReadFault (Json × Text) :=
  match fuel with
  | 0 => .error .malformed
  | fuel + 1 =>
      match text with
      | '"' :: rest => do
          let (spelled, later) ← orMalformed (stringBody [] rest)
          return (.string spelled, later)
      | '[' :: rest =>
          match room with
          | 0 => .error .nestedTooDeep
          | room + 1 =>
              match skipBlanks rest with
              | ']' :: later => .ok (.array [], later)
              | later => items limit fuel room [] later
      | '\x7b' :: rest =>
          match room with
          | 0 => .error .nestedTooDeep
          | room + 1 =>
              match skipBlanks rest with
              | '\x7d' :: later => .ok (.object [], later)
              | later => members limit fuel room [] later
      | _ => orMalformed (scalar limit text)

/-- The items of an array up to its closing bracket; `reversed` holds those read before. -/
def items
    (limit : Option Nat)
    (fuel room : Nat)
    (reversed : List Json)
    (text : Text) :
    Except ReadFault (Json × Text) :=
  match fuel with
  | 0 => .error .malformed
  | fuel + 1 => do
      let (item, rest) ← value limit fuel room text
      match skipBlanks rest with
      | ',' :: later => items limit fuel room (item :: reversed) (skipBlanks later)
      | ']' :: later => .ok (.array (item :: reversed).reverse, later)
      | _ => .error .malformed

/-- The members of an object up to its closing brace; `reversed` holds those read before. -/
def members
    (limit : Option Nat)
    (fuel room : Nat)
    (reversed : Members)
    (text : Text) :
    Except ReadFault (Json × Text) :=
  match fuel with
  | 0 => .error .malformed
  | fuel + 1 =>
      match text with
      | '"' :: afterQuote => do
          let (name, afterName) ← orMalformed (stringBody [] afterQuote)
          match skipBlanks afterName with
          | ':' :: afterColon =>
              let (item, rest) ← value limit fuel room (skipBlanks afterColon)
              match skipBlanks rest with
              | ',' :: later =>
                  members limit fuel room ((name, item) :: reversed) (skipBlanks later)
              | '\x7d' :: later => .ok (.object ((name, item) :: reversed).reverse, later)
              | _ => .error .malformed
          | _ => .error .malformed
      | _ => .error .malformed

end

/--
The value that a whole text writes.  The fuel never runs out: every two units of it that
are spent take at least one character of the text.
-/
def ofText (limit : Option Nat) (text : Text) : Except ReadFault Json := do
  let (json, rest) ← value limit (2 * text.length + 2) mostNested (skipBlanks text)
  if skipBlanks rest = [] then .ok json else .error .malformed

end Splice.Json
