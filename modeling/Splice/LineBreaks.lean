import Splice.Needles

namespace Splice

/-!
# Line breaks

Lines are counted, and the delimiter of a line is found, by repeated search for the
earliest legal delimiter, the longest one where several start together.  A text has one
line more than it has line breaks; the last line has no delimiter.
-/

/-- The delimiters that occur in texts, unless others are named. -/
def standardDelimiters : Needles :=
  [['\n'], ['\r'], ['\r', '\n']]

/--
The next delimiter at or after an offset, with the offset behind it.  Where a search comes
down to an empty delimiter there is no line break.
-/
def nextBreak?
    (delimiters : Needles)
    (text : Text)
    (offset : Nat) :
    Option (Text × Nat) :=
  match delimiters.indexOf? text offset with
  | none => none
  | some (position, index) =>
      let delimiter := delimiters.getD index []
      if delimiter = [] then none else some (delimiter, position + delimiter.length)

/-- The next line break is the earliest delimiter that is not empty. -/
theorem nextBreak?_eq_map_earliest?
    (delimiters : Needles)
    (text : Text)
    (offset : Nat) :
    nextBreak? delimiters text offset =
      (delimiters.earliest? text offset).map fun occurrence =>
        (occurrence.found.needle,
          occurrence.position + occurrence.found.needle.length) := by
  unfold nextBreak? Needles.indexOf?
  rw [Int.toNat_natCast]
  cases found : delimiters.earliest? text offset with
  | some occurrence =>
      obtain ⟨listed, notEmpty, _⟩ := Needles.candidate_of_earliest? found
      simp [List.getD_eq_getElem?_getD, Needles.getElem?_of_mem_candidates listed, notEmpty]
  | none =>
      cases last : delimiters.lastEmpty? with
      | none =>
          rfl
      | some index =>
          simp [List.getD_eq_getElem?_getD, Needles.getElem?_of_lastEmpty? last]

/-- A line break leads on in the text, and not beyond its end. -/
theorem nextBreak?_bounds
    {delimiters : Needles}
    {text delimiter : Text}
    {offset behind : Nat}
    (found : nextBreak? delimiters text offset = some (delimiter, behind)) :
    offset < behind ∧ behind ≤ text.length := by
  rw [nextBreak?_eq_map_earliest?] at found
  obtain ⟨occurrence, isEarliest, same⟩ := Option.map_eq_some_iff.mp found
  have bounds := Needles.earliest?_bounds isEarliest
  cases same
  simp only [List.length_drop] at bounds
  omega

/-- The number of lines, given those counted so far and the offset where the last one starts. -/
def countLines
    (delimiters : Needles)
    (text : Text)
    (lines offset : Nat) :
    Nat :=
  match _search : nextBreak? delimiters text offset with
  | none => lines
  | some (_, behind) => countLines delimiters text (lines + 1) behind
termination_by text.length - offset
decreasing_by
  have bounds := nextBreak?_bounds _search
  omega

/-- The number of lines, of which there is always one. -/
def numberOfLines (delimiters : Needles) (text : Text) : Nat :=
  countLines delimiters text 1 0

/--
The delimiter that ends a line so many lines ahead of the one that starts at an offset; the
last line has none.  A line that the text does not have is refused under its number.
-/
def delimiterAhead
    (delimiters : Needles)
    (text : Text)
    (line : Int)
    (offset : Nat) :
    Nat → Except RangeError (Option Text)
  | 0 => .ok ((nextBreak? delimiters text offset).map Prod.fst)
  | ahead + 1 =>
      match nextBreak? delimiters text offset with
      | none => .error ⟨line, 0, text.length⟩
      | some (_, behind) => delimiterAhead delimiters text line behind ahead

/--
The delimiter that ends a line, counted from zero; the last line has none, and a line
that the text does not have is refused as a range.
-/
def lineDelimiter
    (delimiters : Needles)
    (text : Text)
    (line : Int) :
    Except RangeError (Option Text) :=
  if line < 0 then
    .error ⟨line, 0, text.length⟩
  else
    delimiterAhead delimiters text line 0 line.toNat

/-- The delimiter that ends the first line, or the hint if the text has a single line. -/
def firstDelimiter
    (text : Text)
    (hint : Option Text) :
    Option Text :=
  match standardDelimiters.indexOf? text 0 with
  | some (_, index) => standardDelimiters[index]?
  | none => hint

end Splice
