namespace Splice.Word

/-!
# Characters as codes

Codes are numbers from zero on that stand for characters.  The code points of
surrogates are no characters, so codes from there on are moved past them.
-/

/-- The first code point that is no character. -/
def surrogateStart : Int := 0xD800

/-- The number of code points that are no characters. -/
def surrogateCount : Int := 0x800

/-- The number of codes, which is the number of characters. -/
def codeCount : Int := 0x110000 - surrogateCount

/-- The character that a code stands for; there is none for a code outside of the range. -/
def charOfCode? (code : Int) : Option Char :=
  let point := if surrogateStart ≤ code then code + surrogateCount else code
  if point < 0 then
    none
  else
    let value := point.toNat.toUInt32
    if valid : point < 0x110000 ∧ value.isValidChar then
      some ⟨value, valid.2⟩
    else
      none

def codeOfChar (c : Char) : Int :=
  let point : Int := c.toNat
  if surrogateStart ≤ point then point - surrogateCount else point

end Splice.Word
