import Splice.Proofs.LineBreaks

namespace Splice

/-!
# The lines of the standard delimiters

With the standard delimiters every line break ends at a character that shows it: a line feed,
or a carriage return with no line feed behind it.  A pair of both is one break, which its line
feed ends.  So the lines can be told from counts of characters alone, and where two texts meet
only a pair that arises at the seam makes a difference.
-/

/-- The number of places where a carriage return is directly followed by a line feed. -/
def Text.countPairs (text : Text) : Nat :=
  (List.range text.length).countP fun place =>
    text[place]? = some '\r' ∧ text[place + 1]? = some '\n'

namespace Text

@[simp]
theorem countPairs_nil : countPairs [] = 0 :=
  rfl

/-- A pair starts at the first character or in the rest. -/
theorem countPairs_cons (c : Char) (rest : Text) :
    countPairs (c :: rest) =
      countPairs rest + if c = '\r' ∧ rest.head? = some '\n' then 1 else 0 := by
  rw [countPairs, List.length_cons, List.range_succ_eq_map, List.countP_cons, List.countP_map]
  simp [countPairs, Function.comp_def, List.head?_eq_getElem?]

/-- At the seam of two texts there is a pair exactly if both of its characters meet there. -/
theorem countPairs_append (first second : Text) :
    countPairs (first ++ second) =
      countPairs first + countPairs second +
        if first.getLast? = some '\r' ∧ second.head? = some '\n' then 1 else 0 := by
  induction first with
  | nil =>
      simp
  | cons c rest inductionHypothesis =>
      rw [List.cons_append, countPairs_cons, countPairs_cons, inductionHypothesis]
      cases rest with
      | nil =>
          simp [Nat.add_comm]
      | cons next behind =>
          rw [List.cons_append, List.head?_cons, List.head?_cons, List.getLast?_cons_cons]
          omega

end Text

/-! ## The breaks of a walk -/

theorem scanBreaks_lineFeed (rest : Text) :
    scanBreaks standardDelimiters ('\n' :: rest) =
      ['\n'] :: scanBreaks standardDelimiters rest := by
  have here : delimiterAt? standardDelimiters ('\n' :: rest) = some ['\n'] := by
    simp [delimiterAt?, standardDelimiters]
  simp [scanBreaks, here]

/-- A carriage return and a line feed are one break, because the longer delimiter is taken. -/
theorem scanBreaks_pair (rest : Text) :
    scanBreaks standardDelimiters ('\r' :: '\n' :: rest) =
      ['\r', '\n'] :: scanBreaks standardDelimiters rest := by
  have here : delimiterAt? standardDelimiters ('\r' :: '\n' :: rest) = some ['\r', '\n'] := by
    simp [delimiterAt?, standardDelimiters, List.argmax_cons]
  simp [scanBreaks, here]

theorem scanBreaks_carriageReturn
    {rest : Text}
    (unpaired : rest.head? ≠ some '\n') :
    scanBreaks standardDelimiters ('\r' :: rest) =
      ['\r'] :: scanBreaks standardDelimiters rest := by
  have noFeed : ['\n'].isPrefixOf rest = false := by
    cases rest with
    | nil =>
        rfl
    | cons next behind =>
        have other : '\n' ≠ next := by
          rintro rfl
          exact unpaired rfl
        simp [List.isPrefixOf, other]
  have here : delimiterAt? standardDelimiters ('\r' :: rest) = some ['\r'] := by
    simp [delimiterAt?, standardDelimiters, noFeed]
  simp [scanBreaks, here]

theorem scanBreaks_other
    {c : Char}
    (noFeed : c ≠ '\n')
    (noReturn : c ≠ '\r')
    (rest : Text) :
    scanBreaks standardDelimiters (c :: rest) = scanBreaks standardDelimiters rest := by
  have here : delimiterAt? standardDelimiters (c :: rest) = none := by
    simp [delimiterAt?, standardDelimiters, noFeed.symm, noReturn.symm]
  simp [scanBreaks, here]

/-- One more character in front makes one more break exactly if a break ends at it. -/
theorem length_scanBreaks_cons (c : Char) (rest : Text) :
    (scanBreaks standardDelimiters (c :: rest)).length =
      (scanBreaks standardDelimiters rest).length +
        if c = '\n' ∨ c = '\r' ∧ rest.head? ≠ some '\n' then 1 else 0 := by
  by_cases feed : c = '\n'
  · subst feed
    simp [scanBreaks_lineFeed]
  · by_cases carriageReturn : c = '\r'
    · subst carriageReturn
      by_cases paired : rest.head? = some '\n'
      · -- The break that the line feed ends by itself is longer now, but it is still one.
        obtain ⟨behind, rfl⟩ := List.head?_eq_some_iff.mp paired
        simp [scanBreaks_pair, scanBreaks_lineFeed]
      · simp [scanBreaks_carriageReturn paired, paired]
    · simp [scanBreaks_other feed carriageReturn, feed, carriageReturn]

/-- The breaks are the line feeds and the carriage returns, less those that are paired. -/
theorem length_scanBreaks_add_countPairs (text : Text) :
    (scanBreaks standardDelimiters text).length + text.countPairs =
      text.count '\n' + text.count '\r' := by
  induction text with
  | nil =>
      simp [scanBreaks]
  | cons c rest inductionHypothesis =>
      rw [length_scanBreaks_cons, Text.countPairs_cons, List.count_cons, List.count_cons]
      -- A line feed ends a break, and a carriage return either ends one or starts a pair.
      grind

/-- With the standard delimiters, a document has one line more than it has breaks. -/
theorem Document.numberOfLines_add_countPairs
    {document : Document}
    (standard : document.delimiters = standardDelimiters) :
    document.numberOfLines + document.text.countPairs =
      1 + document.text.count '\n' + document.text.count '\r' := by
  have counted := length_scanBreaks_add_countPairs document.text
  rw [numberOfLines, Splice.numberOfLines, countLines_eq, List.drop_zero, standard]
  omega

/--
A document with the standard delimiters has one line, and one more for every line feed and every
carriage return, where those of a pair count once.  So where two texts are joined, the last line
of the first and the first line of the second become one, and one more line is lost exactly if
the first ends with a carriage return and the second begins with a line feed.
-/
theorem standard_lines_count_characters :
    (∀ document : Document,
        document.delimiters = standardDelimiters →
          (document.numberOfLines : Int) =
            1 + document.text.count '\n' + document.text.count '\r' -
              document.text.countPairs) ∧
      ∀ first second both : Document,
        first.delimiters = standardDelimiters →
          second.delimiters = standardDelimiters →
            both.delimiters = standardDelimiters →
              both.text = first.text ++ second.text →
                (both.numberOfLines : Int) =
                  first.numberOfLines + second.numberOfLines - 1 -
                    if first.text.getLast? = some '\r' ∧ second.text.head? = some '\n' then
                      1
                    else
                      0 := by
  constructor
  · intro document standard
    have counted := Document.numberOfLines_add_countPairs standard
    omega
  · intro first second both firstStandard secondStandard bothStandard inRow
    have firstCounted := Document.numberOfLines_add_countPairs firstStandard
    have secondCounted := Document.numberOfLines_add_countPairs secondStandard
    have bothCounted := Document.numberOfLines_add_countPairs bothStandard
    rw [inRow, Text.countPairs_append, List.count_append, List.count_append] at bothCounted
    by_cases seam : first.text.getLast? = some '\r' ∧ second.text.head? = some '\n'
    · rw [if_pos seam] at bothCounted ⊢
      omega
    · rw [if_neg seam] at bothCounted ⊢
      omega

/-- A pair that arises where two texts are joined is one break and not two. -/
theorem standard_lines_count_characters_seam :
    let document (text : Text) : Document :=
      ⟨text, [], standardDelimiters, none, by decide, by simp⟩
    let first := document ['a', '\r']
    let second := document ['\n', 'b', '\r']
    let both := document ['a', '\r', '\n', 'b', '\r']
    both.delimiters = standardDelimiters ∧
      (both.numberOfLines : Int) =
        1 + both.text.count '\n' + both.text.count '\r' - both.text.countPairs ∧
      first.delimiters = standardDelimiters ∧
      second.delimiters = standardDelimiters ∧
      both.text = first.text ++ second.text ∧
      (first.text.getLast? = some '\r' ∧ second.text.head? = some '\n') ∧
      (both.numberOfLines : Int) = first.numberOfLines + second.numberOfLines - 1 - 1 := by
  intro document first second both
  obtain ⟨counted, joined⟩ := standard_lines_count_characters
  exact ⟨rfl, counted both rfl, rfl, rfl, rfl, ⟨rfl, rfl⟩,
    joined first second both rfl rfl rfl rfl⟩

end Splice
