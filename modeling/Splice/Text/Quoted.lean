import Splice.Text
import Splice.Text.Printable

namespace Splice.Quoted

/-!
# Quoted texts

Messages show a text in quotes.  The quotes are single ones, unless the text holds
single quotes and no double ones.  The backslash, the quote in use, tabs and line
breaks are written as escapes of two characters, other unprintable characters by
their code points in lower-case hexadecimal.
-/

/-- The lower-case hexadecimal digits of a number, filled up with zeros. -/
def hexadecimal (width n : Nat) : Text :=
  let digits := Nat.toDigits 16 n
  List.replicate (width - digits.length) '0' ++ digits

/-- An unprintable character by its code point, in the shortest of three widths. -/
def codePointEscape (c : Char) : Text :=
  let n := c.toNat
  if n < 0x100 then
    '\\' :: 'x' :: hexadecimal 2 n
  else if n < 0x10000 then
    '\\' :: 'u' :: hexadecimal 4 n
  else
    '\\' :: 'U' :: hexadecimal 8 n

/-- A character as it stands between the given quotes. -/
def escape (quote c : Char) : Text :=
  if c = '\\' ∨ c = quote then
    ['\\', c]
  else if c = '\t' then
    ['\\', 't']
  else if c = '\n' then
    ['\\', 'n']
  else if c = '\r' then
    ['\\', 'r']
  else if isPrintable c then
    [c]
  else
    codePointEscape c

/-- The quotes for a text. -/
def quoteFor (text : Text) : Char :=
  if '\'' ∈ text ∧ '"' ∉ text then '"' else '\''

/-- The text in quotes. -/
def quote (text : Text) : Text :=
  let mark := quoteFor text
  mark :: text.flatMap (escape mark) ++ [mark]

end Splice.Quoted
