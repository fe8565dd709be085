import Mathlib.Data.List.MinMax
import Splice.Document
import Splice.Proofs.Needles

namespace Splice

/-!
# Line breaks place by place

The line breaks of a text may also be read in one walk through it: where a delimiter starts,
the longest one is taken and the walk goes on behind it, and elsewhere it goes on behind the
next character.  Counting lines and asking for the delimiter of a line, which search from
break to break, both follow this walk, whatever the delimiters are.
-/

/-- The longest delimiter that a text starts with, empty ones apart. -/
def delimiterAt? (delimiters : Needles) (text : Text) : Option Text :=
  (delimiters.filter fun delimiter =>
    delimiter != [] && delimiter.isPrefixOf text).argmax List.length

/-- The line breaks that a walk through a text comes by; a delimiter has a first character. -/
def scanBreaks (delimiters : Needles) : Text → List Text
  | [] => []
  | c :: rest =>
      match delimiterAt? delimiters (c :: rest) with
      | some delimiter =>
          delimiter :: scanBreaks delimiters (rest.drop (delimiter.length - 1))
      | none => scanBreaks delimiters rest
termination_by text => text.length
decreasing_by
  all_goals
    simp only [List.length_cons, List.length_drop]
    omega

/-- The delimiter at the start of a text is the longest of the candidates that start there. -/
theorem delimiterAt?_eq_argmax_candidates (delimiters : Needles) (text : Text) :
    delimiterAt? delimiters text =
      ((delimiters.candidates.filter (Match.starts text)).map Match.needle).argmax
        List.length := by
  have sameFilter := List.filter_map (p := fun delimiter =>
    delimiter != [] && delimiter.isPrefixOf text) (f := Match.needle) (l := delimiters.candidates)
  rw [Needles.map_needle_candidates] at sameFilter
  rw [delimiterAt?, sameFilter]
  rfl

/-- What a search reports at the start of a text is the delimiter there. -/
theorem map_needle_matchAt? (delimiters : Needles) (text : Text) :
    (delimiters.matchAt? text).map Match.needle = delimiterAt? delimiters text := by
  rw [delimiterAt?_eq_argmax_candidates]
  cases reported : delimiters.matchAt? text with
  | none =>
      rw [Match.foldl_pick_eq_none_iff.mp reported]
      rfl
  | some found =>
      have first := Match.firstLongest_of_foldl_pick reported
      have listed := List.mem_map_of_mem (f := Match.needle) first.mem
      cases longest :
          ((delimiters.candidates.filter (Match.starts text)).map Match.needle).argmax
            List.length with
      | none =>
          rw [List.argmax_eq_none.mp longest] at listed
          cases listed
      | some delimiter =>
          -- Both are prefixes of the text and neither is longer than the other.
          obtain ⟨candidate, member, rfl⟩ := List.mem_map.mp (List.argmax_mem longest)
          have sameLength : found.needle.length = candidate.needle.length :=
            Nat.le_antisymm (List.le_of_mem_argmax listed longest) (first.length_le member)
          have foundStarts := (Match.starts_iff.mp (Needles.starts_of_matchAt? reported)).2
          have candidateStarts := (Match.starts_iff.mp (List.mem_filter.mp member).2).2
          have isPrefix :=
            List.prefix_of_prefix_length_le foundStarts candidateStarts (Nat.le_of_eq sameLength)
          rw [Option.map_some, isPrefix.eq_of_length sameLength]

/-- A walk from a place comes first by the break that a search from there finds. -/
theorem scanBreaks_drop (delimiters : Needles) (text : Text) (offset : Nat) :
    scanBreaks delimiters (text.drop offset) =
      match nextBreak? delimiters text offset with
      | some (delimiter, behind) => delimiter :: scanBreaks delimiters (text.drop behind)
      | none => [] := by
  generalize suffix : text.drop offset = rest
  rw [nextBreak?_eq_map_earliest?]
  induction rest generalizing offset with
  | nil =>
      rw [Needles.earliest?_of_length_le (List.drop_eq_nil_iff.mp suffix)]
      simp [scanBreaks]
  | cons c rest inductionHypothesis =>
      rw [Needles.earliest?_eq, suffix, scanBreaks, ← map_needle_matchAt?]
      cases reported : delimiters.matchAt? (c :: rest) with
      | none =>
          have next : text.drop (offset + 1) = rest := by
            rw [← List.drop_drop, suffix, List.drop_one, List.tail_cons]
          exact inductionHypothesis (offset + 1) next
      | some found =>
          have notEmpty := (Match.starts_iff.mp (Needles.starts_of_matchAt? reported)).1
          obtain ⟨size, length_eq⟩ :=
            Nat.exists_eq_add_one.mpr (List.length_pos_iff.mpr notEmpty)
          have behind : text.drop (offset + (size + 1)) = rest.drop size := by
            rw [← List.drop_drop, suffix, List.drop_succ_cons]
          simp only [Option.map_some, length_eq, Nat.add_sub_cancel, behind]

/-- Counting from break to break counts the breaks of the walk. -/
theorem countLines_eq (delimiters : Needles) (text : Text) (lines offset : Nat) :
    countLines delimiters text lines offset =
      lines + (scanBreaks delimiters (text.drop offset)).length := by
  fun_induction countLines delimiters text lines offset with
  | case1 lines offset noBreak =>
      rw [scanBreaks_drop, noBreak]
      rfl
  | case2 lines offset delimiter behind found inductionHypothesis =>
      rw [inductionHypothesis, scanBreaks_drop delimiters text offset, found]
      simp only [List.length_cons]
      omega

/-- The line that lies so many lines ahead has the break of the walk with that number. -/
theorem delimiterAhead_eq
    (delimiters : Needles)
    (text : Text)
    (line : Int)
    (offset ahead : Nat) :
    delimiterAhead delimiters text line offset ahead =
      if ahead ≤ (scanBreaks delimiters (text.drop offset)).length then
        .ok (scanBreaks delimiters (text.drop offset))[ahead]?
      else
        .error ⟨line, 0, text.length⟩ := by
  induction ahead generalizing offset with
  | zero =>
      rw [delimiterAhead, scanBreaks_drop]
      cases nextBreak? delimiters text offset <;> rfl
  | succ ahead inductionHypothesis =>
      rw [delimiterAhead, scanBreaks_drop delimiters text offset]
      cases nextBreak? delimiters text offset with
      | none =>
          rfl
      | some found =>
          simp only [inductionHypothesis, List.length_cons, Nat.add_le_add_iff_right,
            List.getElem?_cons_succ]

/--
Whatever delimiters are legal, empty ones and such that overlap among them: a document has one
line more than the walk through its text comes by breaks.  Each of these lines is answered with
the break that ends it, the last one with none, and every other number is refused.
-/
theorem Document.line_queries_follow_scan (document : Document) :
    let breaks := scanBreaks document.delimiters document.text
    document.numberOfLines = breaks.length + 1 ∧
      ∀ line : Int,
        document.lineDelimiter line =
          if 0 ≤ line ∧ line ≤ breaks.length then
            .ok breaks[line.toNat]?
          else
            .error ⟨line, 0, document.text.length⟩ := by
  intro breaks
  constructor
  · rw [numberOfLines, Splice.numberOfLines, countLines_eq, List.drop_zero, Nat.add_comm]
  · intro line
    rw [lineDelimiter, Splice.lineDelimiter, delimiterAhead_eq, List.drop_zero]
    by_cases negative : line < 0
    · rw [if_pos negative, if_neg (by omega)]
    · have sameBound :
          line.toNat ≤ breaks.length ↔ 0 ≤ line ∧ line ≤ breaks.length := by
        omega
      rw [if_neg negative]
      exact if_congr sameBound rfl rfl

end Splice
