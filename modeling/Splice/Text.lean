namespace Splice

/-!
# Texts and ranges

A text is a sequence of code points, and every offset, length and position in
this library counts code points.  A range is a request `[offset, offset + length)`
in unbounded integers; a text answers it when the range lies within the text and
refuses it with a `RangeError` otherwise.
-/

/-- A text is the sequence of its code points, which are characters unless it is said otherwise. -/
abbrev Text (α : Type := Char) := List α

/-- A range that a text of `total` code points does not hold. -/
structure RangeError where
  offset : Int
  length : Int
  total : Nat
  deriving Repr, DecidableEq

namespace RangeError

def stop (error : RangeError) : Int :=
  error.offset + error.length

/-- The refusal in words; the range is written half open. -/
def message (error : RangeError) : String :=
  let offset := error.offset
  let stop := error.stop
  let total := error.total
  s!"Range [{offset}, {stop}) is outside of text with length {total}"

end RangeError

/-- What follows a step succeeds exactly if the step does and what follows does on its value. -/
theorem bind_eq_ok_iff
    {ε α β : Type}
    {step : Except ε α}
    {next : α → Except ε β}
    {result : β} :
    step >>= next = .ok result ↔ ∃ value, step = .ok value ∧ next value = .ok result := by
  constructor
  · intro succeeded
    cases step with
    | error error =>
        cases succeeded
    | ok value =>
        exact ⟨value, rfl, succeeded⟩
  · rintro ⟨value, rfl, succeeded⟩
    exact succeeded

/-- What follows a step fails if the step does, or else on the value of the step. -/
theorem bind_eq_error_iff
    {ε α β : Type}
    {step : Except ε α}
    {next : α → Except ε β}
    {error : ε} :
    step >>= next = .error error ↔
      step = .error error ∨ ∃ value, step = .ok value ∧ next value = .error error := by
  cases step with
  | error other =>
      simp [bind, Except.bind]
  | ok value =>
      simp [bind, Except.bind]

/-- What follows a step that succeeds goes on from its value. -/
theorem ok_bind
    {ε α β : Type}
    (value : α)
    (next : α → Except ε β) :
    Except.ok value >>= next = next value :=
  rfl

/-- The range of `length` code points from `offset` lies within a text of `total`. -/
def Fits (offset length : Int) (total : Nat) : Prop :=
  0 ≤ offset ∧ 0 ≤ length ∧ offset + length ≤ total

instance (offset length : Int) (total : Nat) :
    Decidable (Fits offset length total) :=
  inferInstanceAs (Decidable (_ ∧ _ ∧ _))

/-- A range without negative numbers fits when its end does. -/
theorem fits_iff_of_nonneg
    {offset length : Int}
    {total : Nat}
    (offset_nonneg : 0 ≤ offset)
    (length_nonneg : 0 ≤ length) :
    Fits offset length total ↔ offset + length ≤ total := by
  simp [Fits, offset_nonneg, length_nonneg]

/-- Ranges of natural numbers fit when their end does. -/
theorem fits_natCast_iff
    {offset length total : Nat} :
    Fits offset length total ↔ offset + length ≤ total := by
  unfold Fits
  omega

namespace Text

variable {α : Type}

/-- The code points of `[offset, stop)`, as far as the text has them. -/
def slice
    (text : Text α)
    (offset stop : Nat) :
    Text α :=
  (text.drop offset).take (stop - offset)

/-- The code points of a range that lies within the text. -/
def fetch
    (text : Text α)
    (offset length : Int) :
    Except RangeError (Text α) :=
  if Fits offset length text.length then
    .ok ((text.drop offset.toNat).take length.toNat)
  else
    .error ⟨offset, length, text.length⟩

/-- A range is answered exactly if it fits, with the code points it covers. -/
theorem fetch_eq_ok_iff
    {text piece : Text α}
    {offset length : Int} :
    text.fetch offset length = .ok piece ↔
      Fits offset length text.length ∧
        piece = (text.drop offset.toNat).take length.toNat := by
  unfold fetch
  split
  · next fits =>
      simp [fits, eq_comm]
  · next misfit =>
      simp [misfit]

/-- A refused range is told with the length of the text that does not hold it. -/
theorem fetch_eq_error_iff
    {text : Text α}
    {offset length : Int}
    {error : RangeError} :
    text.fetch offset length = .error error ↔
      ¬Fits offset length text.length ∧ error = ⟨offset, length, text.length⟩ := by
  unfold fetch
  split
  · next fits =>
      simp [fits]
  · next misfit =>
      simp [misfit, eq_comm]

theorem length_of_fetch
    {text piece : Text α}
    {offset length : Int}
    (fetched : text.fetch offset length = .ok piece) :
    (piece.length : Int) = length := by
  obtain ⟨fits, rfl⟩ := fetch_eq_ok_iff.mp fetched
  obtain ⟨_, _, _⟩ := fits
  simp only [List.length_take, List.length_drop]
  omega

/-- A piece of a text is fetched from where it lies. -/
theorem fetch_append
    (before piece behind : Text α)
    {offset length : Int}
    (offset_eq : offset = before.length)
    (length_eq : length = piece.length) :
    fetch (before ++ piece ++ behind) offset length = .ok piece := by
  subst offset_eq length_eq
  rw [fetch_eq_ok_iff]
  constructor
  · rw [fits_natCast_iff]
    simp
  · simp

/-- The code points of a range; a range without a length runs to the end of the text. -/
def get
    (text : Text α)
    (offset : Int)
    (length : Option Int) :
    Except RangeError (Text α) :=
  text.fetch offset (length.getD (text.length - offset))

/--
The text with the range `[offset, offset + length)` replaced.  The replacement
stands where the range stood, whatever its own length.
-/
def replaceRange
    (text : Text α)
    (offset length : Nat)
    (replacement : Text α) :
    Text α :=
  text.take offset ++ replacement ++ text.drop (offset + length)

/-- The first position at or after `position` where `needle` starts; `text` begins at `position`. -/
def findFrom
    (needle : Text)
    (position : Nat) :
    Text → Option Nat
  | [] => if needle = [] then some position else none
  | c :: rest =>
      if needle.isPrefixOf (c :: rest) then
        some position
      else
        findFrom needle (position + 1) rest

theorem findFrom_bounds
    {needle text : Text}
    {position found : Nat}
    (occurs : findFrom needle position text = some found) :
    position ≤ found ∧ found + needle.length ≤ position + text.length := by
  induction text generalizing position with
  | nil =>
      unfold findFrom at occurs
      split at occurs
      · next empty =>
          cases occurs
          simp [empty]
      · cases occurs
  | cons c rest inductionHypothesis =>
      unfold findFrom at occurs
      split at occurs
      · next starts =>
          cases occurs
          have bound := (List.isPrefixOf_iff_prefix.mp starts).length_le
          exact ⟨Nat.le_refl _, by omega⟩
      · have bounds := inductionHypothesis occurs
        simp only [List.length_cons]
        omega

/-- The first position at or after `start` where `needle` occurs in the text. -/
def find?
    (text needle : Text)
    (start : Nat) :
    Option Nat :=
  findFrom needle start (text.drop start)

end Text

end Splice
