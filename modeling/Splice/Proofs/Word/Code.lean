import Mathlib.Data.Set.Function
import Splice.Word.Code

namespace Splice.Word

/-!
# Codes and characters

Every code from zero up to the number of characters stands for one character, and the
character tells the code.  The characters come in the order of their codes: a code is moved to
a code point, and no code is moved to a surrogate or past another code.
-/

/-- The code point that a code is moved to. -/
def pointOfCode (code : Int) : Int :=
  if surrogateStart ≤ code then code + surrogateCount else code

/-- The code point is set aside and belongs to no character. -/
def IsSurrogate (point : Int) : Prop :=
  0xD800 ≤ point ∧ point < 0xE000

/-- The code point of a character is no surrogate. -/
theorem toNat_bounds (c : Char) :
    c.toNat < 0xD800 ∨ 0xE000 ≤ c.toNat ∧ c.toNat < 0x110000 := by
  have valid := c.valid
  simp only [UInt32.isValidChar, Nat.isValidChar, Char.toNat_val] at valid
  omega

/-- Characters in front of the surrogates have their code points as codes. -/
theorem codeOfChar_of_lt
    {c : Char}
    (low : c.toNat < 0xD800) :
    codeOfChar c = c.toNat := by
  have start : surrogateStart = 0xD800 := rfl
  unfold codeOfChar
  rw [if_neg (by omega)]

/-- Characters behind the surrogates have codes that leave these out. -/
theorem codeOfChar_of_ge
    {c : Char}
    (high : 0xE000 ≤ c.toNat) :
    codeOfChar c = c.toNat - 0x800 := by
  have start : surrogateStart = 0xD800 := rfl
  unfold codeOfChar
  rw [if_pos (by omega)]
  rfl

theorem codeOfChar_nonneg (c : Char) : 0 ≤ codeOfChar c := by
  rcases toNat_bounds c with low | ⟨high, _⟩
  · rw [codeOfChar_of_lt low]
    omega
  · rw [codeOfChar_of_ge high]
    omega

theorem codeOfChar_lt_codeCount (c : Char) : codeOfChar c < codeCount := by
  have total : codeCount = 0x10F800 := rfl
  rcases toNat_bounds c with low | ⟨high, inRange⟩
  · rw [codeOfChar_of_lt low]
    omega
  · rw [codeOfChar_of_ge high]
    omega

/-- Codes in front of the surrogates stay where they are, and all others are moved past them. -/
theorem pointOfCode_cases (code : Int) :
    code < 0xD800 ∧ pointOfCode code = code ∨
      0xD800 ≤ code ∧ pointOfCode code = code + 0x800 := by
  rcases Int.lt_or_le code 0xD800 with low | high
  · exact Or.inl ⟨low, if_neg (Int.not_le.mpr low)⟩
  · exact Or.inr ⟨high, if_pos high⟩

theorem not_isSurrogate_pointOfCode (code : Int) : ¬IsSurrogate (pointOfCode code) := by
  have point := pointOfCode_cases code
  unfold IsSurrogate
  omega

/-- Codes are moved without a change of their order. -/
theorem pointOfCode_lt_pointOfCode_iff {first second : Int} :
    pointOfCode first < pointOfCode second ↔ first < second := by
  have firstPoint := pointOfCode_cases first
  have secondPoint := pointOfCode_cases second
  omega

theorem pointOfCode_inj {first second : Int} :
    pointOfCode first = pointOfCode second ↔ first = second := by
  have firstPoint := pointOfCode_cases first
  have secondPoint := pointOfCode_cases second
  omega

/-- The code of a character is moved to its code point. -/
theorem pointOfCode_codeOfChar (c : Char) : pointOfCode (codeOfChar c) = c.toNat := by
  have point := pointOfCode_cases (codeOfChar c)
  rcases toNat_bounds c with low | ⟨high, _⟩
  · have code := codeOfChar_of_lt low
    omega
  · have code := codeOfChar_of_ge high
    omega

/-- A code stands for the character at the code point that it is moved to. -/
theorem charOfCode?_eq_some_iff_point {code : Int} {c : Char} :
    charOfCode? code = some c ↔ pointOfCode code = c.toNat := by
  have moved :
      (if surrogateStart ≤ code then code + surrogateCount else code) = pointOfCode code :=
    rfl
  have bounds := toNat_bounds c
  simp only [charOfCode?, moved]
  constructor
  · intro found
    split at found
    · cases found
    · split at found
      · next valid =>
          cases found
          have small : (pointOfCode code).toNat < UInt32.size := by
            have inRange := valid.1
            simp only [UInt32.size]
            omega
          rw [Char.toNat, UInt32.toNat_ofNat_of_lt' small]
          omega
      · cases found
  · intro same
    have value : (c.toNat : Int).toNat.toUInt32 = c.val := by
      rw [Int.toNat_natCast, ← Char.toNat_val]
      exact UInt32.ofNat_toNat
    have inRange : (c.toNat : Int) < 0x110000 := by
      omega
    simp only [same, value]
    rw [if_neg (by omega), dif_pos ⟨inRange, c.valid⟩]

/-- The code of a character stands for it. -/
theorem charOfCode?_codeOfChar (c : Char) : charOfCode? (codeOfChar c) = some c :=
  charOfCode?_eq_some_iff_point.mpr (pointOfCode_codeOfChar c)

/-- The character that a code stands for tells the code. -/
theorem charOfCode?_eq_some_iff {code : Int} {c : Char} :
    charOfCode? code = some c ↔ codeOfChar c = code := by
  rw [charOfCode?_eq_some_iff_point, ← pointOfCode_codeOfChar, pointOfCode_inj, eq_comm]

/-- Every code point in the range that is no surrogate is that of a character. -/
theorem exists_toNat_eq
    {point : Nat}
    (inRange : point < 0x110000)
    (notSurrogate : ¬IsSurrogate point) :
    ∃ c : Char, c.toNat = point := by
  have valid : point.isValidChar := by
    simp only [IsSurrogate, Nat.isValidChar] at *
    omega
  exact ⟨Char.ofNatAux point valid, rfl⟩

/-- Every code in the range stands for a character that tells it. -/
theorem exists_charOfCode?
    {code : Int}
    (notNegative : 0 ≤ code)
    (inRange : code < codeCount) :
    ∃ c, charOfCode? code = some c ∧ codeOfChar c = code := by
  have total : codeCount = 0x10F800 := rfl
  have moved := pointOfCode_cases code
  have point_eq : ((pointOfCode code).toNat : Int) = pointOfCode code :=
    Int.toNat_of_nonneg (by omega)
  obtain ⟨c, isPoint⟩ : ∃ c : Char, c.toNat = (pointOfCode code).toNat :=
    exists_toNat_eq (by omega) (point_eq ▸ not_isSurrogate_pointOfCode code)
  have standsFor : charOfCode? code = some c := by
    rw [charOfCode?_eq_some_iff_point, isPoint, point_eq]
  exact ⟨c, standsFor, charOfCode?_eq_some_iff.mp standsFor⟩

/-- Codes are in the order of the characters that they stand for. -/
theorem lt_of_charOfCode?
    {first second : Int}
    {c d : Char}
    (firstStandsFor : charOfCode? first = some c)
    (secondStandsFor : charOfCode? second = some d)
    (before : first < second) :
    c < d := by
  have points := pointOfCode_lt_pointOfCode_iff.mpr before
  rw [charOfCode?_eq_some_iff_point.mp firstStandsFor,
    charOfCode?_eq_some_iff_point.mp secondStandsFor] at points
  rw [Char.lt_def, UInt32.lt_iff_toNat_lt]
  exact Int.ofNat_lt.mp points

/--
The codes from zero up to `codeCount` stand for characters, and no others do.  They stand for the
characters in order, at code points that are no surrogates, and the character tells its code.
Every code point that is no surrogate is that of a character, and the character is what its code
stands for.  So codes and characters correspond one to one.
-/
theorem codes_number_characters_in_order :
    codeCount = 0x10F800 ∧
      (∀ code, (∃ c, charOfCode? code = some c) ↔ 0 ≤ code ∧ code < codeCount) ∧
      (∀ code c,
        charOfCode? code = some c →
          codeOfChar c = code ∧ (c.toNat : Int) = pointOfCode code) ∧
      (∀ code, ¬IsSurrogate (pointOfCode code)) ∧
      (∀ first second c d,
        charOfCode? first = some c → charOfCode? second = some d → first < second → c < d) ∧
      (∀ point : Nat,
        point < 0x110000 →
          ¬IsSurrogate point → ∃ c, c.toNat = point ∧ charOfCode? (codeOfChar c) = some c) ∧
      Set.BijOn codeOfChar Set.univ {code | 0 ≤ code ∧ code < codeCount} := by
  have ranged (c : Char) : 0 ≤ codeOfChar c ∧ codeOfChar c < codeCount :=
    ⟨codeOfChar_nonneg c, codeOfChar_lt_codeCount c⟩
  refine ⟨rfl, fun code => ⟨?_, ?_⟩, ?_, not_isSurrogate_pointOfCode,
    fun _ _ _ _ => lt_of_charOfCode?, ?_, fun c _ => ranged c, ?_, ?_⟩
  · rintro ⟨c, standsFor⟩
    exact charOfCode?_eq_some_iff.mp standsFor ▸ ranged c
  · rintro ⟨notNegative, inRange⟩
    obtain ⟨c, standsFor, _⟩ := exists_charOfCode? notNegative inRange
    exact ⟨c, standsFor⟩
  · intro code c standsFor
    exact ⟨charOfCode?_eq_some_iff.mp standsFor,
      (charOfCode?_eq_some_iff_point.mp standsFor).symm⟩
  · intro point inRange notSurrogate
    obtain ⟨c, isPoint⟩ := exists_toNat_eq inRange notSurrogate
    exact ⟨c, isPoint, charOfCode?_codeOfChar c⟩
  · intro c _ d _ sameCode
    have standsFor := charOfCode?_codeOfChar c
    rw [sameCode, charOfCode?_codeOfChar d] at standsFor
    exact (Option.some.inj standsFor).symm
  · rintro code ⟨notNegative, inRange⟩
    obtain ⟨c, _, tells⟩ := exists_charOfCode? notNegative inRange
    exact ⟨c, Set.mem_univ c, tells⟩

/-- The last code in front of the surrogates, the first behind them, and the last code point. -/
theorem codes_number_characters_in_order_seam :
    charOfCode? 0xD7FF = some '\ud7ff' ∧
      charOfCode? 0xD800 = some '\ue000' ∧
      codeOfChar '\ue000' = 0xD800 ∧
      '\ud7ff' < '\ue000' ∧
      0x10FFFF < 0x110000 ∧
      ¬IsSurrogate (0x10FFFF : Nat) ∧
      ∃ c : Char, c.toNat = 0x10FFFF ∧ charOfCode? (codeOfChar c) = some c := by
  obtain ⟨_, _, tells, _, inOrder, returns, _⟩ := codes_number_characters_in_order
  have before : charOfCode? 0xD7FF = some '\ud7ff' := by
    decide
  have behind : charOfCode? 0xD800 = some '\ue000' := by
    decide
  have notSurrogate : ¬IsSurrogate (0x10FFFF : Nat) := by
    unfold IsSurrogate
    omega
  exact ⟨before, behind, (tells _ _ behind).1, inOrder _ _ _ _ before behind (by decide),
    by decide, notSurrogate, returns 0x10FFFF (by decide) notSurrogate⟩

end Splice.Word
