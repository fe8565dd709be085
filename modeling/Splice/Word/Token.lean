import Splice.Text
import Splice.Text.Alphanumeric
import Splice.Text.Blank

namespace Splice.Word

/-!
# Tokens

A text falls into tokens: runs of white space, runs of word characters, and single
other characters.  The division depends on nothing but the classes of the characters,
so it is made for any classification.
-/

/-- The class of a character where a text is divided into tokens. -/
inductive CharClass where
  | space
  | word
  | other
  deriving Repr, DecidableEq

/-- The class of a character: white space, word character or neither. -/
def charClass (c : Char) : CharClass :=
  if isSpace c then
    .space
  else if isWordChar c then
    .word
  else
    .other

/-- Two neighbouring characters belong to the same run. -/
def joined
    (classOf : Char → CharClass)
    (left right : Char) :
    Bool :=
  classOf left != .other && classOf left == classOf right

/-- The tokens of a text under a classification, in order. -/
def tokensBy
    (classOf : Char → CharClass)
    (text : Text) :
    List Text :=
  text.splitBy (joined classOf)

/-- The tokens of a text, in order. -/
def tokens (text : Text) : List Text :=
  tokensBy charClass text

end Splice.Word
