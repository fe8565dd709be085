import Splice.Comparison
import Splice.Proofs.Script.Between
import Splice.Proofs.Script.Changes
import Splice.Proofs.Script.Unchanged
import Splice.Proofs.Word.Lexicon
import Splice.Proofs.Word.Repetition

namespace Splice

/-!
# Edits of a comparison

Any comparison whose scripts spell the two texts that are compared gives edits that turn
the one into the other, by characters and by words.  Nothing else about the comparison
matters: its pieces may be empty and come in any order.
-/

/-- The scripts of the comparison spell the texts that are compared. -/
def Comparer.Faithful (compare : Comparer) : Prop :=
  ∀ source target, (compare source target).Spells source target

variable {compare : Comparer} {limit : Int}

/-- A comparison by words compares the codes of the texts and decodes its script piece by piece. -/
theorem scriptBy_word_of_encode
    (faithful : compare.Faithful)
    (enough : limit ≤ Word.codeCount)
    {source target : Text}
    {encoding : Word.Encoding}
    (encoded : Word.encode limit source target = .ok encoding) :
    let coded := compare encoding.source encoding.target
    scriptBy compare .word limit source target = .ok (coded.map encoding.lexicon.decoded) ∧
      encoding.lexicon.Divides coded.source source ∧
      encoding.lexicon.Divides coded.target target := by
  intro coded
  obtain ⟨other, otherEncoded, sourceDivides, targetDivides⟩ :=
    Word.exists_encode_divides enough source target
  obtain rfl := Except.ok.inj (encoded.symm.trans otherEncoded)
  obtain ⟨codesSource, codesTarget⟩ := faithful encoding.source encoding.target
  rw [← codesSource] at sourceDivides
  rw [← codesTarget] at targetDivides
  have known :=
    Word.Lexicon.knows_of_mem_piece sourceDivides.reads.1 targetDivides.reads.1
  have decoded := Word.Lexicon.decodeScript_eq_ok_iff.mpr ⟨known, rfl⟩
  exact ⟨bind_eq_ok_iff.mpr ⟨encoding, encoded, decoded⟩, sourceDivides, targetDivides⟩

/-- A comparison by words gives, decoded, a script of codes of the tokens of both texts. -/
theorem exists_scriptBy_word
    (faithful : compare.Faithful)
    (enough : limit ≤ Word.codeCount)
    (source target : Text) :
    ∃ (lexicon : Word.Lexicon) (coded : Script),
      scriptBy compare .word limit source target = .ok (coded.map lexicon.decoded) ∧
        lexicon.Divides coded.source source ∧
        lexicon.Divides coded.target target := by
  obtain ⟨encoding, encoded, _⟩ := Word.exists_encode_divides enough source target
  exact ⟨encoding.lexicon, _, scriptBy_word_of_encode faithful enough encoded⟩

/-- A comparison by words, too, gives a script, and the script spells the texts. -/
theorem exists_scriptBy
    (faithful : compare.Faithful)
    (granularity : Granularity)
    (enough : limit ≤ Word.codeCount)
    (source target : Text) :
    ∃ script,
      scriptBy compare granularity limit source target = .ok script ∧
        script.Spells source target := by
  cases granularity with
  | char =>
      exact ⟨compare source target, rfl, faithful source target⟩
  | word =>
      obtain ⟨lexicon, coded, compared, sourceDivides, targetDivides⟩ :=
        exists_scriptBy_word faithful enough source target
      refine ⟨_, compared, ?_⟩
      rw [Script.spells_iff_on, lexicon.on_map_decoded, lexicon.on_map_decoded]
      exact ⟨sourceDivides.reads.2, targetDivides.reads.2⟩

/-- The edits of a comparison are those of its script. -/
theorem editsBy_eq_ok
    {granularity : Granularity}
    {source target : Text}
    {script : Script}
    (compared : scriptBy compare granularity limit source target = .ok script)
    (order : Script.Order) :
    editsBy compare order granularity limit source target = .ok (script.edits order) :=
  bind_eq_ok_iff.mpr ⟨script, compared, rfl⟩

/--
The edits of a faithful comparison are all formed, and one after another they fit the text
and turn the source into the target.
-/
theorem editsBy_turn_source_into_target
    (faithful : compare.Faithful)
    (order : Script.Order)
    (granularity : Granularity)
    (source target : Text) :
    ∃ script batch,
      scriptBy compare granularity Word.codeCount source target = .ok script ∧
        script.attempts order = batch.map some ∧
        editsBy compare order granularity Word.codeCount source target = .ok batch ∧
        source.applyAll batch = .ok target := by
  obtain ⟨script, compared, spells⟩ :=
    exists_scriptBy faithful granularity (Int.le_refl Word.codeCount) source target
  obtain ⟨rfl, rfl⟩ := spells
  exact ⟨script, script.edits order, compared, script.attempts_eq_map_some order,
    editsBy_eq_ok compared order, script.applyAll_edits order⟩

/-- Two swapped words are compared by the words and rewritten from the right. -/
theorem editsBy_turn_source_into_target_swapped_words :
    Comparer.Faithful Script.between ∧
      ∃ script batch,
        scriptBy Script.between .word Word.codeCount ['a', ' ', 'b'] ['b', ' ', 'a'] =
            .ok script ∧
          script.attempts .rightToLeft = batch.map some ∧
          editsBy Script.between .rightToLeft .word Word.codeCount
              ['a', ' ', 'b'] ['b', ' ', 'a'] = .ok batch ∧
          Text.applyAll ['a', ' ', 'b'] batch = .ok ['b', ' ', 'a'] :=
  ⟨Script.spells_between,
    editsBy_turn_source_into_target Script.spells_between .rightToLeft .word
      ['a', ' ', 'b'] ['b', ' ', 'a']⟩

/-- In either order, the edits of a faithful comparison are those of one script. -/
theorem exists_edits_of_script
    (faithful : compare.Faithful)
    (granularity : Granularity)
    (enough : limit ≤ Word.codeCount)
    (source target : Text) :
    ∃ script : Script,
      script.Spells source target ∧
        ∀ order,
          editsBy compare order granularity limit source target = .ok (script.edits order) := by
  obtain ⟨script, compared, spells⟩ :=
    exists_scriptBy faithful granularity enough source target
  exact ⟨script, spells, editsBy_eq_ok compared⟩

/-- The edits of a faithful comparison exist and turn the one text into the other. -/
theorem exists_editsBy
    (faithful : compare.Faithful)
    (order : Script.Order)
    (granularity : Granularity)
    (enough : limit ≤ Word.codeCount)
    (source target : Text) :
    ∃ batch,
      editsBy compare order granularity limit source target = .ok batch ∧
        source.applyAll batch = .ok target := by
  obtain ⟨script, ⟨rfl, rfl⟩, given⟩ :=
    exists_edits_of_script faithful granularity enough source target
  exact ⟨script.edits order, given order, script.applyAll_edits order⟩

/-! ## Equal texts -/

/-- The scripts of the comparison keep everything where the texts are equal. -/
def Comparer.KeepsEqual (compare : Comparer) : Prop :=
  ∀ text, (compare text text).Keeps

theorem keeps_scriptBy
    (keepsEqual : compare.KeepsEqual)
    {granularity : Granularity}
    {text : Text}
    {script : Script}
    (compared : scriptBy compare granularity limit text text = .ok script) :
    script.Keeps := by
  cases granularity with
  | char =>
      cases compared
      exact keepsEqual text
  | word =>
      obtain ⟨encoding, encoded, decoded⟩ := bind_eq_ok_iff.mp compared
      rw [Word.source_eq_target_of_encode encoded] at decoded
      obtain ⟨_, rfl⟩ := Word.Lexicon.decodeScript_eq_ok_iff.mp decoded
      exact (keepsEqual encoding.target).map_decoded encoding.lexicon

/-- There is nothing to edit between a text and itself. -/
theorem editsBy_self
    (faithful : compare.Faithful)
    (keepsEqual : compare.KeepsEqual)
    (order : Script.Order)
    (granularity : Granularity)
    (enough : limit ≤ Word.codeCount)
    (text : Text) :
    editsBy compare order granularity limit text text = .ok [] := by
  obtain ⟨script, compared, _⟩ := exists_scriptBy faithful granularity enough text text
  rw [editsBy_eq_ok compared, Script.edits_of_keeps (keeps_scriptBy keepsEqual compared)]

/--
Whatever the limit of the lexicon, and wherever it takes the rest of a text together: two texts
are coded alike exactly if they are equal.  So a faithful comparison that keeps equal texts as
they are, by words or by characters and in either order, gives no edits exactly if the texts
are equal.
-/
theorem nothing_to_edit_iff_texts_equal
    (faithful : compare.Faithful)
    (keepsEqual : compare.KeepsEqual)
    (enough : limit ≤ Word.codeCount)
    (source target : Text) :
    (∃ encoding,
        Word.encode limit source target = .ok encoding ∧
          (encoding.source = encoding.target ↔ source = target)) ∧
      ∀ order granularity,
        ∃ batch,
          editsBy compare order granularity limit source target = .ok batch ∧
            (batch = [] ↔ source = target) := by
  constructor
  · obtain ⟨encoding, encoded, _⟩ := Word.exists_encode enough source target
    exact ⟨encoding, encoded, Word.source_eq_target_iff_of_encode enough encoded⟩
  · intro order granularity
    obtain ⟨batch, given, applied⟩ :=
      exists_editsBy faithful order granularity enough source target
    refine ⟨batch, given, ?_⟩
    constructor
    · -- The batch leads from the source to the target, also where it holds no edit.
      rintro rfl
      exact Except.ok.inj applied
    · rintro rfl
      have unchanged := editsBy_self faithful keepsEqual order granularity enough source
      exact Except.ok.inj (given.symm.trans unchanged)

/-- A text whose last three tokens are coded as one has nothing to edit in itself. -/
theorem nothing_to_edit_iff_texts_equal_folded :
    let text : Text := ['a', ' ', 'b', ' ', 'c']
    Comparer.Faithful Script.between ∧
      Comparer.KeepsEqual Script.between ∧
      (4 : Int) ≤ Word.codeCount ∧
      (∃ encoding,
        Word.encode 4 text text = .ok encoding ∧ encoding.source = encoding.target) ∧
      ∀ order granularity, editsBy Script.between order granularity 4 text text = .ok [] := by
  intro text
  have faithful : Comparer.Faithful Script.between := Script.spells_between
  have keepsEqual : Comparer.KeepsEqual Script.between := Script.keeps_between
  have enough : (4 : Int) ≤ Word.codeCount := by
    decide
  obtain ⟨⟨encoding, encoded, codedAlike⟩, edited⟩ :=
    nothing_to_edit_iff_texts_equal faithful keepsEqual enough text text
  refine ⟨faithful, keepsEqual, enough, ⟨encoding, encoded, codedAlike.mpr rfl⟩, ?_⟩
  intro order granularity
  obtain ⟨batch, given, unchanged⟩ := edited order granularity
  rwa [unchanged.mpr rfl] at given

end Splice
