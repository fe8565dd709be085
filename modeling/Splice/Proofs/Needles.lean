import Mathlib.Data.List.Basic
import Splice.Needles

namespace Splice

/-!
# A search from place to place

A search for several needles asks each of them for its first occurrence and picks among the
answers.  It finds the same as a walk through the text: where the needles that start at a
place are not all empty, it reports the longest of them there, and else it goes on behind
the next character.
-/

namespace Text

variable {text needle : Text} {start : Nat}

theorem find?_of_starts
    (starts : needle.isPrefixOf (text.drop start) = true) :
    text.find? needle start = some start := by
  unfold find?
  cases here : text.drop start with
  | nil =>
      rw [here, List.isPrefixOf_iff_prefix, List.prefix_nil] at starts
      simp [findFrom, starts]
  | cons c rest =>
      rw [here] at starts
      simp [findFrom, starts]

/-- A needle that does not start at a place is looked for behind the next character. -/
theorem find?_of_not_starts
    (absent : ¬needle.isPrefixOf (text.drop start) = true) :
    text.find? needle start = text.find? needle (start + 1) := by
  have behind : text.drop (start + 1) = (text.drop start).drop 1 := by
    rw [List.drop_drop]
  unfold find?
  rw [behind]
  cases here : text.drop start with
  | nil =>
      have notEmpty : needle ≠ [] := by
        rintro rfl
        exact absent (by simp)
      simp [findFrom, notEmpty]
  | cons c rest =>
      rw [here] at absent
      rw [findFrom, if_neg absent, List.drop_one, List.tail_cons]

end Text

namespace Match

/-- A text starts with the needle of the match, which is not empty. -/
def starts (text : Text) (candidate : Match) : Bool :=
  candidate.needle != [] && candidate.needle.isPrefixOf text

theorem starts_iff
    {text : Text}
    {candidate : Match} :
    candidate.starts text = true ↔ candidate.needle ≠ [] ∧ candidate.needle <+: text := by
  rw [starts, Bool.and_eq_true_iff, bne_iff_ne, List.isPrefixOf_iff_prefix]

/-- The longest of some matches, and of equally long ones the first. -/
def FirstLongest (candidates : List Match) (picked : Match) : Prop :=
  ∃ before behind,
    candidates = before ++ picked :: behind ∧
      (∀ other ∈ before, other.needle.length < picked.needle.length) ∧
      ∀ other ∈ behind, other.needle.length ≤ picked.needle.length

namespace FirstLongest

variable {candidates : List Match} {picked held other : Match}

theorem mem (first : FirstLongest candidates picked) : picked ∈ candidates := by
  obtain ⟨before, behind, rfl, _, _⟩ := first
  simp

theorem length_le
    (first : FirstLongest candidates picked)
    (member : other ∈ candidates) :
    other.needle.length ≤ picked.needle.length := by
  obtain ⟨before, behind, rfl, shorter, notLonger⟩ := first
  rcases List.mem_append.mp member with inFront | isPicked | isBehind
  · exact Nat.le_of_lt (shorter other inFront)
  · exact Nat.le_refl _
  · next isBehind =>
      exact notLonger other isBehind

/-- In front of the picked match stands what is shorter. -/
theorem cons_of_lt
    (first : FirstLongest candidates picked)
    (shorter : other.needle.length < picked.needle.length) :
    FirstLongest (other :: candidates) picked := by
  obtain ⟨before, behind, rfl, inFront, notLonger⟩ := first
  exact ⟨other :: before, behind, rfl, List.forall_mem_cons.mpr ⟨shorter, inFront⟩, notLonger⟩

/-- A match that is not longer than the one held so far may stand behind it. -/
theorem insert_of_le
    (first : FirstLongest (held :: candidates) picked)
    (notLonger : other.needle.length ≤ held.needle.length) :
    FirstLongest (held :: other :: candidates) picked := by
  obtain ⟨before, behind, parts, shorter, behindNotLonger⟩ := first
  cases before with
  | nil =>
      obtain ⟨rfl, rfl⟩ := List.cons.inj parts
      exact ⟨[], other :: candidates, rfl, by simp,
        List.forall_mem_cons.mpr ⟨notLonger, behindNotLonger⟩⟩
  | cons first before =>
      obtain ⟨rfl, rfl⟩ := List.cons.inj parts
      rw [List.forall_mem_cons] at shorter
      refine ⟨held :: other :: before, behind, rfl, ?_, behindNotLonger⟩
      rw [List.forall_mem_cons, List.forall_mem_cons]
      exact ⟨shorter.1, Nat.lt_of_le_of_lt notLonger shorter.1, shorter.2⟩

/-- Only one of some matches is the first of the longest. -/
theorem unique
    (first : FirstLongest candidates picked)
    (second : FirstLongest candidates other) :
    picked = other := by
  have pickedNotLonger := second.length_le first.mem
  have otherNotLonger := first.length_le second.mem
  obtain ⟨before, behind, rfl, shorter, _⟩ := first
  obtain ⟨otherBefore, otherBehind, parts, otherShorter, _⟩ := second
  -- If one of them stood in front of the other, it would have to be shorter.
  rcases List.append_eq_append_iff.mp parts with ⟨between, rfl, rest⟩ | ⟨between, rfl, rest⟩
  · cases between with
    | nil =>
        exact (List.cons.inj rest).1
    | cons head between =>
        obtain ⟨rfl, _⟩ := List.cons.inj rest
        have pickedShorter := otherShorter picked (by simp)
        omega
  · cases between with
    | nil =>
        exact (List.cons.inj rest).1.symm
    | cons head between =>
        obtain ⟨rfl, _⟩ := List.cons.inj rest
        have isShorter := shorter other (by simp)
        omega

/-- Among fewer matches, one that was the first longest before still is. -/
theorem filter
    (first : FirstLongest candidates picked)
    (test : Match → Bool)
    (passes : test picked = true) :
    FirstLongest (candidates.filter test) picked := by
  obtain ⟨before, behind, rfl, shorter, notLonger⟩ := first
  refine ⟨before.filter test, behind.filter test, ?_, ?_, ?_⟩
  · rw [List.filter_append, List.filter_cons_of_pos passes]
  · intro other member
    exact shorter other (List.mem_filter.mp member).1
  · intro other member
    exact notLonger other (List.mem_filter.mp member).1

end FirstLongest

/-- Behind a match that is held already, picking comes to the first longest of all. -/
theorem exists_foldl_pick_some (held : Match) (candidates : List Match) :
    ∃ picked,
      candidates.foldl pick (some held) = some picked ∧
        FirstLongest (held :: candidates) picked := by
  induction candidates generalizing held with
  | nil =>
      exact ⟨held, rfl, [], [], rfl, by simp, by simp⟩
  | cons candidate rest inductionHypothesis =>
      rw [List.foldl_cons, pick]
      split
      · next longer =>
          obtain ⟨picked, result, first⟩ := inductionHypothesis candidate
          have reached := first.length_le List.mem_cons_self
          exact ⟨picked, result, first.cons_of_lt (Nat.lt_of_lt_of_le longer reached)⟩
      · next notLonger =>
          obtain ⟨picked, result, first⟩ := inductionHypothesis held
          exact ⟨picked, result, first.insert_of_le (Nat.le_of_not_lt notLonger)⟩

/-- What is picked of some matches is the first longest of them. -/
theorem firstLongest_of_foldl_pick
    {candidates : List Match}
    {picked : Match}
    (result : candidates.foldl pick none = some picked) :
    FirstLongest candidates picked := by
  cases candidates with
  | nil =>
      cases result
  | cons candidate rest =>
      obtain ⟨other, otherResult, first⟩ := exists_foldl_pick_some candidate rest
      cases result.symm.trans otherResult
      exact first

theorem foldl_pick_eq_none_iff {candidates : List Match} :
    candidates.foldl pick none = none ↔ candidates = [] := by
  cases candidates with
  | nil =>
      simp
  | cons candidate rest =>
      obtain ⟨picked, result, _⟩ := exists_foldl_pick_some candidate rest
      simp [pick, result]

theorem exists_foldl_pick
    {candidates : List Match}
    {other : Match}
    (member : other ∈ candidates) :
    ∃ picked, candidates.foldl pick none = some picked ∧ FirstLongest candidates picked := by
  cases result : candidates.foldl pick none with
  | none =>
      rw [foldl_pick_eq_none_iff.mp result] at member
      cases member
  | some picked =>
      exact ⟨picked, rfl, firstLongest_of_foldl_pick result⟩

/-- What is picked is the first longest match, and nothing else is. -/
theorem foldl_pick_eq_some_iff
    {candidates : List Match}
    {picked : Match} :
    candidates.foldl pick none = some picked ↔ FirstLongest candidates picked := by
  constructor
  · exact firstLongest_of_foldl_pick
  · intro first
    obtain ⟨other, result, second⟩ := exists_foldl_pick first.mem
    rw [result, second.unique first]

end Match

namespace Needles

variable {needles : Needles} {text : Text} {start : Nat} {candidate : Match}

/-- What a search reports where a text starts: the longest needle there that is not empty. -/
def matchAt? (needles : Needles) (text : Text) : Option Match :=
  (needles.candidates.filter (Match.starts text)).foldl Match.pick none

/-- The text starts with what is reported. -/
theorem starts_of_matchAt?
    {found : Match}
    (reported : needles.matchAt? text = some found) :
    found.starts text = true :=
  (List.mem_filter.mp (Match.firstLongest_of_foldl_pick reported).mem).2

/-- A candidate that starts at a place occurs there. -/
theorem occurrence?_of_starts
    (starts : candidate.starts (text.drop start) = true) :
    occurrence? text start candidate = some ⟨start, candidate⟩ := by
  obtain ⟨notEmpty, isPrefix⟩ := Match.starts_iff.mp starts
  rw [occurrence?, if_neg notEmpty,
    Text.find?_of_starts (List.isPrefixOf_iff_prefix.mpr isPrefix), Option.map_some]

theorem occurrence?_of_not_starts
    (absent : ¬candidate.starts (text.drop start) = true) :
    occurrence? text start candidate = occurrence? text (start + 1) candidate := by
  unfold occurrence?
  split
  · rfl
  · next notEmpty =>
      have notThere : ¬candidate.needle.isPrefixOf (text.drop start) = true := by
        intro isPrefix
        exact absent (Match.starts_iff.mpr ⟨notEmpty, List.isPrefixOf_iff_prefix.mp isPrefix⟩)
      rw [Text.find?_of_not_starts notThere]

theorem le_position_of_occurrence?
    {occurrence : Occurrence}
    (occurs : occurrence? text start candidate = some occurrence) :
    start ≤ occurrence.position := by
  unfold occurrence? at occurs
  split at occurs
  · cases occurs
  · obtain ⟨position, foundAt, same⟩ := Option.map_eq_some_iff.mp occurs
    cases same
    exact (Text.findFrom_bounds foundAt).1

/--
What a search from a place holds, beside the match of the needles that start there: it is that
match, or else nothing or what occurs further on.
-/
inductive Agrees (start : Nat) : Option Occurrence → Option Match → Prop where
  | nothing : Agrees start none none
  | further
      {occurrence : Occurrence}
      (beyond : start < occurrence.position) :
      Agrees start (some occurrence) none
  | here (found : Match) : Agrees start (some ⟨start, found⟩) (some found)

namespace Agrees

variable {held : Option Occurrence} {best : Option Match}

/-- An occurrence at the place is taken or left as its needle is. -/
theorem pick_here
    (agrees : Agrees start held best)
    (candidate : Match) :
    Agrees start (Occurrence.pick held ⟨start, candidate⟩) (Match.pick best candidate) := by
  cases agrees with
  | nothing =>
      exact .here candidate
  | further beyond =>
      simp only [Occurrence.pick, beyond, ↓reduceIte]
      exact .here candidate
  | here found =>
      simp only [Occurrence.pick, Match.pick, Nat.lt_irrefl, ↓reduceIte, true_and]
      split
      · exact .here candidate
      · exact .here found

/-- An occurrence further on does not count beside a match at the place. -/
theorem pick_further
    (agrees : Agrees start held best)
    {occurrence : Occurrence}
    (beyond : start < occurrence.position) :
    Agrees start (Occurrence.pick held occurrence) best := by
  cases agrees with
  | nothing =>
      exact .further beyond
  | further heldBeyond =>
      simp only [Occurrence.pick]
      split
      · exact .further beyond
      · split
        · exact .further beyond
        · exact .further heldBeyond
  | here found =>
      have notEarlier : ¬occurrence.position < start := by
        omega
      have elsewhere : ¬occurrence.position = start := by
        omega
      simp only [Occurrence.pick, notEarlier, elsewhere, false_and, ↓reduceIte]
      exact .here found

theorem eq_some
    {found : Match}
    (agrees : Agrees start held (some found)) :
    held = some ⟨start, found⟩ := by
  cases agrees
  rfl

/-- A search through all candidates agrees with the match of those that start at the place. -/
theorem foldl_pick
    (agrees : Agrees start held best)
    (candidates : List Match) :
    Agrees start
      ((candidates.filterMap (occurrence? text start)).foldl Occurrence.pick held)
      ((candidates.filter (Match.starts (text.drop start))).foldl Match.pick best) := by
  induction candidates generalizing held best with
  | nil =>
      exact agrees
  | cons candidate rest inductionHypothesis =>
      by_cases starts : candidate.starts (text.drop start) = true
      · rw [List.filterMap_cons_some (occurrence?_of_starts starts),
          List.filter_cons_of_pos starts]
        exact inductionHypothesis (agrees.pick_here candidate)
      · rw [List.filter_cons_of_neg starts]
        cases occurs : occurrence? text start candidate with
        | none =>
            rw [List.filterMap_cons_none occurs]
            exact inductionHypothesis agrees
        | some occurrence =>
            rw [List.filterMap_cons_some occurs]
            rw [occurrence?_of_not_starts starts] at occurs
            exact inductionHypothesis (agrees.pick_further (le_position_of_occurrence? occurs))

end Agrees

/-- A search from a place reports what starts there, or else what a search behind it does. -/
theorem earliest?_eq (needles : Needles) (text : Text) (start : Nat) :
    needles.earliest? text start =
      match needles.matchAt? (text.drop start) with
      | some found => some ⟨start, found⟩
      | none => needles.earliest? text (start + 1) := by
  have agrees :
      Agrees start (needles.earliest? text start) (needles.matchAt? (text.drop start)) :=
    Agrees.nothing.foldl_pick needles.candidates
  cases reported : needles.matchAt? (text.drop start) with
  | some found =>
      rw [reported] at agrees
      exact agrees.eq_some
  | none =>
      have noneStarts := List.filter_eq_nil_iff.mp (Match.foldl_pick_eq_none_iff.mp reported)
      have sameOccurrences :
          needles.candidates.filterMap (occurrence? text start) =
            needles.candidates.filterMap (occurrence? text (start + 1)) :=
        List.filterMap_congr fun candidate member =>
          occurrence?_of_not_starts (noneStarts candidate member)
      simp only [earliest?, sameOccurrences]

/-- Beyond the end of a text nothing is found. -/
theorem earliest?_of_length_le
    (beyond : text.length ≤ start) :
    needles.earliest? text start = none := by
  cases found : needles.earliest? text start with
  | none =>
      rfl
  | some occurrence =>
      have bounds := earliest?_bounds found
      simp only [List.length_drop] at bounds
      omega

/-- The candidates stand for the needles. -/
theorem map_needle_candidates (needles : Needles) :
    needles.candidates.map Match.needle = needles := by
  rw [candidates, List.map_map]
  exact List.zipIdx_map_fst 0 needles

end Needles

end Splice
