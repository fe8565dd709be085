import Mathlib.Data.List.Basic
import Mathlib.Data.Nat.Digits.Defs
import Splice.Json.Reader
import Splice.Json.Writer
import Splice.Proofs.Word.Code

namespace Splice

/-!
# Reading scalars that were written

A text is written as a string in ASCII and a count in decimal digits.  Reading takes each of
them for what it was, whatever follows: a string ends at its closing quote, since quotes
within it are escaped, and a count ends at the comma behind it.
-/

namespace Json

/-! ## Strings -/

theorem hexValue?_hexDigit : ∀ n < 16, hexValue? (hexDigit n) = some n := by
  decide

/-- Four hexadecimal digits tell a code unit. -/
theorem codeUnit?_hexDigits
    {unit : Nat}
    (inRange : unit < 0x10000) :
    codeUnit? (hexDigit (unit / 4096 % 16)) (hexDigit (unit / 256 % 16))
      (hexDigit (unit / 16 % 16)) (hexDigit (unit % 16)) = some unit := by
  have digit (n : Nat) : hexValue? (hexDigit (n % 16)) = some (n % 16) :=
    hexValue?_hexDigit (n % 16) (Nat.mod_lt n (by decide))
  simp only [codeUnit?, digit, Option.bind_eq_bind, Option.bind_some, Option.pure_def,
    Option.some.injEq]
  omega

/-- A unit that is no surrogate is read as the character that it is. -/
theorem nextUnit?_unitEscape
    {unit : Nat}
    (noSurrogate : unit < 0xD800 ∨ 0xE000 ≤ unit ∧ unit < 0x10000)
    (rest : Text) :
    nextUnit? (unitEscape unit ++ rest) = some (.point (.char (Char.ofNat unit)), rest) := by
  have notHigh : isHighSurrogate unit = false := by
    simp only [isHighSurrogate, Bool.and_eq_false_iff, decide_eq_false_iff_not]
    omega
  have isChar : CodePoint.ofUnit unit = .char (Char.ofNat unit) :=
    dif_neg (by omega)
  simp [unitEscape, nextUnit?, codeUnit?_hexDigits (show unit < 0x10000 by omega), notHigh,
    isChar]

/-- Two surrogates in order are read as the character that they make up. -/
theorem nextUnit?_unitEscape_pair
    {high low : Nat}
    (isHigh : 0xD800 ≤ high ∧ high < 0xDC00)
    (isLow : 0xDC00 ≤ low ∧ low < 0xE000)
    (rest : Text) :
    nextUnit? (unitEscape high ++ (unitEscape low ++ rest)) =
      some (.point (.char (pairChar high low)), rest) := by
  have highTold : isHighSurrogate high = true := by
    simpa [isHighSurrogate] using isHigh
  have lowTold : isLowSurrogate low = true := by
    simpa [isLowSurrogate] using isLow
  simp [unitEscape, nextUnit?, codeUnit?_hexDigits (show high < 0x10000 by omega),
    codeUnit?_hexDigits (show low < 0x10000 by omega), highTold, lowTold]

/-- The escape of a character by its code units is read as the character. -/
theorem nextUnit?_unitsEscape (c : Char) (rest : Text) :
    nextUnit? (unitsEscape c ++ rest) = some (.point (.char c), rest) := by
  have bounds := Word.toNat_bounds c
  unfold unitsEscape
  by_cases inPlane : c.toNat < 0x10000
  · simp only [inPlane, ↓reduceIte]
    rw [nextUnit?_unitEscape (by omega), Char.ofNat_toNat]
  · simp only [inPlane, ↓reduceIte, List.append_assoc]
    have point :
        pairChar (0xD800 + (c.toNat - 0x10000) / 0x400)
          (0xDC00 + (c.toNat - 0x10000) % 0x400) = c := by
      rw [pairChar]
      convert Char.ofNat_toNat c using 2
      omega
    rw [nextUnit?_unitEscape_pair (by omega) (by omega), point]

/-- A character that needs no escape is read as itself. -/
theorem nextUnit?_self
    {c : Char}
    (noQuote : c ≠ '"')
    (noBackslash : c ≠ '\\')
    (printable : ' ' ≤ c)
    (rest : Text) :
    nextUnit? (c :: rest) = some (.point (.char c), rest) := by
  have noControl : ¬c.toNat < 0x20 := Nat.not_lt.mpr printable
  unfold nextUnit?
  split
  · next same =>
      exact (noQuote (List.cons.inj same).1).elim
  · next same =>
      exact (noBackslash (List.cons.inj same).1).elim
  · next same =>
      exact (noBackslash (List.cons.inj same).1).elim
  · next same =>
      obtain ⟨rfl, rfl⟩ := List.cons.inj same
      rw [if_neg noControl]
  · next same =>
      cases same

/-- Every character as it stands in a string is read as the character. -/
theorem nextUnit?_escapeChar (c : Char) (rest : Text) :
    nextUnit? (escapeChar c ++ rest) = some (.point (.char c), rest) := by
  unfold escapeChar
  split_ifs with isQuote isBackslash isLineFeed isReturn isTab isFormFeed isBackspace plain
  · subst isQuote
    rfl
  · subst isBackslash
    rfl
  · subst isLineFeed
    rfl
  · subst isReturn
    rfl
  · subst isTab
    rfl
  · subst isFormFeed
    rfl
  · subst isBackspace
    rfl
  · exact nextUnit?_self isQuote isBackslash plain.1 rest
  · exact nextUnit?_unitsEscape c rest

theorem stringBody_of_point
    {reversed : Text CodePoint}
    {text rest : Text}
    {point : CodePoint}
    (read : nextUnit? text = some (.point point, rest)) :
    stringBody reversed text = stringBody (point :: reversed) rest := by
  rw [stringBody]
  split <;> simp_all

theorem stringBody_closing (reversed : Text CodePoint) (rest : Text) :
    stringBody reversed ('"' :: rest) = some (reversed.reverse, rest) := by
  rw [stringBody]
  rfl

/-- The body of a string of characters is read up to the quote behind it. -/
theorem stringBody_flatMap_escape
    (reversed : Text CodePoint)
    (text rest : Text) :
    stringBody reversed (text.points.flatMap escape ++ '"' :: rest) =
      some (reversed.reverse ++ text.points, rest) := by
  induction text generalizing reversed with
  | nil =>
      rw [Text.points_nil, List.flatMap_nil, List.nil_append, stringBody_closing,
        List.append_nil]
  | cons c text inductionHypothesis =>
      rw [Text.points_cons, List.flatMap_cons, List.append_assoc, escape,
        stringBody_of_point (nextUnit?_escapeChar c _), inductionHypothesis]
      simp

variable (limit : Option Nat)

/-- A text of characters that was written as a string is read as that text. -/
theorem value_quote (fuel room : Nat) (text rest : Text) :
    value limit (fuel + 1) room (quote text.points ++ rest) = .ok (.string text.points, rest) := by
  have body :
      quote text.points ++ rest = '"' :: (text.points.flatMap escape ++ '"' :: rest) := by
    simp [quote]
  rw [body, value, stringBody_flatMap_escape]
  rfl

/-! ## Counts -/

theorem digitsValue_digits (n : Nat) : Numeral.digitsValue (digits n) = n :=
  Nat.ofDigitChars_toDigits (by decide) (by decide)

theorem isDigit_of_mem_digits
    {n : Nat}
    {c : Char}
    (member : c ∈ digits n) :
    c.isDigit = true :=
  Nat.isDigit_of_mem_toDigits (by decide) (by decide) member

theorem digits_ne_nil (n : Nat) : digits n ≠ [] :=
  Nat.toDigits_ne_nil

theorem exists_digits_eq_cons (n : Nat) :
    ∃ first others, digits n = first :: others ∧ first.isDigit = true := by
  obtain ⟨first, others, digits_eq⟩ := List.exists_cons_of_ne_nil (digits_ne_nil n)
  exact ⟨first, others, digits_eq, isDigit_of_mem_digits (digits_eq ▸ List.mem_cons_self)⟩

/-- Only zero is written with a zero in front. -/
theorem head?_digits_ne_zero
    {n : Nat}
    (positive : 0 < n) :
    (digits n).head? ≠ some '0' := by
  have digitChar_ne_zero : ∀ digit < 10, 0 < digit → digit.digitChar ≠ '0' := by
    decide
  induction n using Nat.strongRecOn with
  | ind n inductionHypothesis =>
      unfold digits at inductionHypothesis ⊢
      by_cases single : n < 10
      · rw [Nat.toDigits_of_lt_base single]
        simpa using digitChar_ne_zero n single positive
      · rw [Nat.toDigits_of_base_le (by decide) (by omega),
          List.head?_append_of_ne_nil _ Nat.toDigits_ne_nil]
        exact inductionHypothesis (n / 10) (by omega) (by omega)

/-- The integer part of a written count is all of it. -/
theorem integerPart_digits (n : Nat) (rest : Text) :
    integerPart (digits n ++ ',' :: rest) = digits n := by
  unfold integerPart
  split
  · next zero =>
      rcases Nat.eq_zero_or_pos n with rfl | positive
      · rfl
      · have front := head?_digits_ne_zero positive
        rw [← List.head?_append_of_ne_nil _ (digits_ne_nil n), zero] at front
        exact (front rfl).elim
  · rw [List.takeWhile_append_of_pos fun c member => isDigit_of_mem_digits member]
    simp

/-- A count has no more digits than the limit allows, if there is one. -/
def Readable (n : Nat) : Prop :=
  withinLimit limit (digits n).length = true

instance (n : Nat) : Decidable (Readable limit n) :=
  inferInstanceAs (Decidable (_ = true))

variable {limit}

/-- A smaller count may be read as well, for it has no more digits. -/
theorem Readable.of_le
    {n bound : Nat}
    (readable : Readable limit bound)
    (within : n ≤ bound) :
    Readable limit n := by
  have fits : bound < 10 ^ (digits bound).length :=
    (Nat.length_toDigits_le_iff (by decide) Nat.length_toDigits_pos).mp le_rfl
  have fewer : (digits n).length ≤ (digits bound).length :=
    (Nat.length_toDigits_le_iff (by decide) Nat.length_toDigits_pos).mpr (within.trans_lt fits)
  cases limit with
  | none =>
      rfl
  | some most =>
      have boundWithin : (digits bound).length ≤ most := of_decide_eq_true readable
      exact decide_eq_true (fewer.trans boundWithin)

/-- The number in front of a comma is the count that was written there. -/
theorem number_digits
    {n : Nat}
    (readable : Readable limit n)
    (rest : Text) :
    number limit false (digits n ++ ',' :: rest) = some (.integer n, ',' :: rest) := by
  have noFraction : fraction (',' :: rest) = ([], ',' :: rest) := rfl
  have noExponent : exponent? (',' :: rest) = none := rfl
  have within : withinLimit limit (digits n).length = true := readable
  simp [number, integerPart_digits, digits_ne_nil, noFraction, noExponent, digitsValue_digits,
    within]

/-- A value that starts with a digit is a number without a sign. -/
theorem value_of_isDigit
    {first : Char}
    (isDigit : first.isDigit = true)
    (fuel room : Nat)
    (rest : Text) :
    value limit (fuel + 1) room (first :: rest) =
      orMalformed (number limit false (first :: rest)) := by
  have isScalar : scalar limit (first :: rest) = number limit false (first :: rest) := by
    unfold scalar
    split <;> simp_all
  rw [value, isScalar]
  all_goals
    rintro later same
    obtain ⟨rfl, -⟩ := List.cons.inj same
    cases isDigit

/-- A count that was written in front of a comma is read as that count. -/
theorem value_digits
    {n : Nat}
    (readable : Readable limit n)
    (fuel room : Nat)
    (rest : Text) :
    value limit (fuel + 1) room (digits n ++ ',' :: rest) = .ok (.integer n, ',' :: rest) := by
  have read := number_digits readable rest
  obtain ⟨first, others, digits_eq, isDigit⟩ := exists_digits_eq_cons n
  rw [digits_eq] at read ⊢
  rw [List.cons_append, value_of_isDigit isDigit, ← List.cons_append, read]
  rfl

end Json

end Splice
