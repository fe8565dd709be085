import Splice.Edit

namespace Splice

/-!
# Marked-up texts

A text is shown with one edit marked in place: removed text stands in a deletion
block, new text in an insertion block behind it, and a comment behind both.  Empty
blocks are left out, and nothing in the text itself is escaped.
-/

namespace Marks

/-- A block between its opening and closing marks; an empty one is left out. -/
def block
    (opening closing : String)
    (content : Text CodePoint) :
    Text CodePoint :=
  if content = [] then
    []
  else
    Text.points opening.toList ++ content ++ Text.points closing.toList

def deletion (text : Text CodePoint) : Text CodePoint :=
  block "\x7b--" "--\x7d" text

def insertion (text : Text CodePoint) : Text CodePoint :=
  block "\x7b++" "++\x7d" text

/-- A remark on the change. -/
def comment (text : Text CodePoint) : Text CodePoint :=
  block "\x7b>>" "<<\x7d" text

/-- One change with its comment. -/
def change (target replacement remark : Text CodePoint) : Text CodePoint :=
  deletion target ++ insertion replacement ++ comment remark

/--
The text with an edit marked in place; without an edit the text stays as it is, and
so does an absent comment.
-/
def render
    (text : Text CodePoint)
    (edit : Option (Edit CodePoint))
    (remark : Option (Text CodePoint)) :
    Except RangeError (Text CodePoint) :=
  match edit with
  | none => .ok text
  | some edit =>
      if edit.stop ≤ text.length then
        .ok
          (text.take edit.offset ++
            change (text.slice edit.offset edit.stop) edit.text (remark.getD []) ++
            text.drop edit.stop)
      else
        .error ⟨edit.offset, edit.length, text.length⟩

end Marks

end Splice
