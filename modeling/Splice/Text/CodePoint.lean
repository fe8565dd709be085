import Splice.Text

namespace Splice

/-!
# Code points

The bytes of a file encode characters only.  An escape, however, may name half of a surrogate
pair without the other half.  Such a half is a code point of its own: it can be held in a text
and counted, but no bytes encode it.
-/

/-- A character, or half of a surrogate pair by its distance from U+D800. -/
inductive CodePoint where
  | char (c : Char)
  | half (distance : Fin 0x800)
  deriving Repr, DecidableEq

namespace CodePoint

/-- The code point of a code unit that stands alone. -/
def ofUnit (unit : Nat) : CodePoint :=
  if inRange : 0xD800 ≤ unit ∧ unit < 0xE000 then
    .half ⟨unit - 0xD800, by omega⟩
  else
    .char (Char.ofNat unit)

end CodePoint

namespace Text

/-- The characters of a text as code points. -/
def points (text : Text) : Text CodePoint :=
  text.map .char

/-- The characters of which a text consists, if it holds no half of a surrogate pair. -/
def chars? : Text CodePoint → Option Text
  | [] => some []
  | .char c :: rest => (chars? rest).map (c :: ·)
  | .half _ :: _ => none

@[simp]
theorem points_nil : points [] = [] :=
  rfl

@[simp]
theorem points_cons (c : Char) (text : Text) : points (c :: text) = .char c :: points text :=
  rfl

@[simp]
theorem length_points (text : Text) : text.points.length = text.length :=
  List.length_map _

/-- Characters are found again among the code points. -/
@[simp]
theorem chars?_points (text : Text) : text.points.chars? = some text := by
  induction text with
  | nil =>
      rfl
  | cons c rest inductionHypothesis =>
      rw [points_cons, chars?, inductionHypothesis, Option.map_some]

/-- A text that consists of something else than characters holds half of a surrogate pair. -/
theorem exists_half_of_chars?_eq_none
    {text : Text CodePoint}
    (noChars : text.chars? = none) :
    ∃ distance, .half distance ∈ text := by
  induction text with
  | nil =>
      cases noChars
  | cons point rest inductionHypothesis =>
      cases point with
      | half distance =>
          exact ⟨distance, List.mem_cons_self⟩
      | char c =>
          rw [chars?, Option.map_eq_none_iff] at noChars
          obtain ⟨distance, member⟩ := inductionHypothesis noChars
          exact ⟨distance, List.mem_cons_of_mem _ member⟩

@[simp]
theorem half_notMem_points
    (distance : Fin 0x800)
    (text : Text) :
    .half distance ∉ text.points := by
  simp [points]

end Text

end Splice
