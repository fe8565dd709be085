import Splice.Proofs.Comparison.Orders
import Splice.Proofs.Word.Boundaries

namespace Splice

/-!
# Edits that keep words whole

The changes of a script start and end between its pieces, and in a comparison by words the
pieces stand for whole tokens.  So no edit starts or ends within a word or within a run of
white space, neither in the text that it changes nor in the one that it leads to.
-/

variable {compare : Comparer} {limit : Int}

/-- Between two pieces of a decoded script, the text that it shows has a boundary. -/
theorem Script.isBoundary_of_isPrefix_decoded
    (side : Side)
    {lexicon : Word.Lexicon}
    {coded front : Script}
    {text : Text}
    (divides : lexicon.Divides (coded.on side) text)
    (isPrefix : front <+: coded.map lexicon.decoded) :
    Word.IsBoundary text (front.on side).length := by
  obtain ⟨rest, whole⟩ := isPrefix
  obtain ⟨codedFront, codedRest, rfl, rfl, _⟩ := List.map_eq_append_iff.mp whole.symm
  rw [Script.on_append] at divides
  rw [lexicon.on_map_decoded]
  exact divides.isBoundary (List.prefix_append _ _)

/-- So a stretch of its pieces shows a text that starts and ends at a boundary. -/
theorem Script.isBoundary_of_stretch
    (side : Side)
    {lexicon : Word.Lexicon}
    {coded front stretch rest : Script}
    {text : Text}
    (divides : lexicon.Divides (coded.on side) text)
    (whole : coded.map lexicon.decoded = front ++ stretch ++ rest) :
    Word.IsBoundary text (front.on side).length ∧
      Word.IsBoundary text ((front.on side).length + (stretch.on side).length) := by
  have throughStretch : front ++ stretch <+: coded.map lexicon.decoded :=
    ⟨rest, whole.symm⟩
  have throughFront : front <+: coded.map lexicon.decoded :=
    (List.prefix_append front stretch).trans throughStretch
  have stops := isBoundary_of_isPrefix_decoded side divides throughStretch
  rw [Script.on_append, List.length_append] at stops
  exact ⟨isBoundary_of_isPrefix_decoded side divides throughFront, stops⟩

/--
Whatever the limit of the lexicon, a faithful comparison by words gives edits that cut no word
and no run of white space: from right to left each starts and ends at boundaries of the source,
and from left to right its text starts and ends at boundaries of the target.
-/
theorem words_are_never_cut
    (faithful : compare.Faithful)
    (enough : limit ≤ Word.codeCount)
    (source target : Text) :
    ∃ forward backward,
      editsBy compare .leftToRight .word limit source target = .ok forward ∧
        editsBy compare .rightToLeft .word limit source target = .ok backward ∧
        (∀ edit ∈ backward,
          Word.IsBoundary source edit.offset ∧ Word.IsBoundary source edit.stop) ∧
        ∀ edit ∈ forward,
          Word.IsBoundary target edit.offset ∧
            Word.IsBoundary target (edit.offset + edit.text.length) := by
  obtain ⟨lexicon, coded, compared, sourceDivides, targetDivides⟩ :=
    exists_scriptBy_word faithful enough source target
  have gathers := Script.gathers_changesBackward (coded.map lexicon.decoded)
  refine ⟨_, _, editsBy_eq_ok compared .leftToRight, editsBy_eq_ok compared .rightToLeft,
    ?_, ?_⟩
  · intro edit member
    obtain ⟨front, stretch, rest, whole, rfl⟩ := gathers.exists_stretch edit member
    exact Script.isBoundary_of_stretch .source sourceDivides whole
  · intro edit member
    obtain ⟨front, stretch, rest, whole, rfl⟩ := gathers.exists_stretch_of_drift edit member
    exact Script.isBoundary_of_stretch .target targetDivides whole

/-- Where the last three tokens of each text are coded as one, changes that touch cut no word. -/
theorem words_are_never_cut_folded :
    let source : Text := ['a', 'b', ' ', 'c', ' ', 'd']
    let target : Text := ['a', 'b', ' ', 'x', ' ', 'd']
    Comparer.piecemeal.Faithful ∧
      (4 : Int) ≤ Word.codeCount ∧
      ∃ forward backward,
        editsBy .piecemeal .leftToRight .word 4 source target = .ok forward ∧
          editsBy .piecemeal .rightToLeft .word 4 source target = .ok backward ∧
          (∀ edit ∈ backward,
            Word.IsBoundary source edit.offset ∧ Word.IsBoundary source edit.stop) ∧
          ∀ edit ∈ forward,
            Word.IsBoundary target edit.offset ∧
              Word.IsBoundary target (edit.offset + edit.text.length) := by
  intro source target
  have enough : (4 : Int) ≤ Word.codeCount := by
    decide
  exact ⟨Comparer.faithful_piecemeal, enough,
    words_are_never_cut Comparer.faithful_piecemeal enough source target⟩

end Splice
