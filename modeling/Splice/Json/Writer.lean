import Splice.Edit

namespace Splice.Json

/-!
# Writing JSON

Edits are written with one member a line and an indentation of two blanks.  Texts
are written in ASCII: all other code points are escaped by their UTF-16 code units.
-/

/-- The lower-case hexadecimal digit of a number below 16. -/
def hexDigit (n : Nat) : Char :=
  if n < 10 then
    Char.ofNat ('0'.toNat + n)
  else
    Char.ofNat ('a'.toNat + (n - 10))

/-- The escape of a UTF-16 code unit. -/
def unitEscape (unit : Nat) : Text :=
  ['\\', 'u', hexDigit (unit / 4096 % 16), hexDigit (unit / 256 % 16),
    hexDigit (unit / 16 % 16), hexDigit (unit % 16)]

/-- A character by its code unit, or by a surrogate pair from U+10000 on. -/
def unitsEscape (c : Char) : Text :=
  let n := c.toNat
  if n < 0x10000 then
    unitEscape n
  else
    unitEscape (0xD800 + (n - 0x10000) / 0x400) ++
      unitEscape (0xDC00 + (n - 0x10000) % 0x400)

/-- A character as it stands in a string. -/
def escapeChar (c : Char) : Text :=
  if c = '"' then
    ['\\', '"']
  else if c = '\\' then
    ['\\', '\\']
  else if c = '\n' then
    ['\\', 'n']
  else if c = '\r' then
    ['\\', 'r']
  else if c = '\t' then
    ['\\', 't']
  else if c = '\x0c' then
    ['\\', 'f']
  else if c = '\x08' then
    ['\\', 'b']
  else if ' ' ≤ c ∧ c ≤ '~' then
    [c]
  else
    unitsEscape c

/-- A code point as it stands in a string. -/
def escape : CodePoint → Text
  | .char c => escapeChar c
  | .half distance => unitEscape (0xD800 + distance)

def quote (text : Text CodePoint) : Text :=
  '"' :: text.flatMap escape ++ ['"']

def digits (n : Nat) : Text :=
  Nat.toDigits 10 n

/-- Blanks at the start of a line. -/
def indentation (width : Nat) : Text :=
  List.replicate width ' '

/-- A member of an object on a line of its own. -/
def memberLine (width : Nat) (name : String) (value : Text) : Text :=
  indentation width ++ quote (Text.points name.toList) ++ [':', ' '] ++ value

/-- An edit whose closing brace is indented by `width`. -/
def writeEdit (width : Nat) (edit : Edit CodePoint) : Text :=
  let lines :=
    [memberLine (width + 2) "offset" (digits edit.offset),
      memberLine (width + 2) "length" (digits edit.length),
      memberLine (width + 2) "text" (quote edit.text)]
  ['\x7b', '\n'] ++ [',', '\n'].intercalate lines ++ '\n' :: indentation width ++ ['\x7d']

/-- A batch of edits as an array. -/
def writeBatch (batch : List (Edit CodePoint)) : Text :=
  if batch = [] then
    ['[', ']']
  else
    let items := batch.map fun edit => indentation 2 ++ writeEdit 2 edit
    ['[', '\n'] ++ [',', '\n'].intercalate items ++ ['\n', ']']

end Splice.Json
