import Splice.Text

namespace Splice

/-!
# Searching for several needles at once

A search is given a short list of needles, typically line delimiters, and answers
with the index of the needle that it found.  Where several needles match at the
same place the longest one counts, and of equally long ones the first in the list.
-/

/-- The texts that a search looks for, in the order of their indices. -/
abbrev Needles := List Text

/-- A needle that matched, with its index in the list. -/
structure Match where
  index : Nat
  needle : Text
  deriving Repr, DecidableEq

namespace Match

/-- A longer needle takes the place of the match so far. -/
def pick (best : Option Match) (candidate : Match) : Option Match :=
  match best with
  | none => some candidate
  | some held =>
      if held.needle.length < candidate.needle.length then some candidate else some held

end Match

/-- An occurrence of a needle in a text. -/
structure Occurrence where
  position : Nat
  found : Match
  deriving Repr, DecidableEq

namespace Occurrence

/-- An earlier occurrence takes the place of the one so far, and so does a longer one there. -/
def pick (best : Option Occurrence) (candidate : Occurrence) : Option Occurrence :=
  match best with
  | none => some candidate
  | some held =>
      if candidate.position < held.position then
        some candidate
      else if candidate.position = held.position ∧
          held.found.needle.length < candidate.found.needle.length then
        some candidate
      else
        some held

/-- The occurrence that is picked is one of those on offer. -/
theorem eq_or_mem_of_foldl_pick
    {best : Option Occurrence}
    {candidates : List Occurrence}
    {picked : Occurrence}
    (result : candidates.foldl pick best = some picked) :
    best = some picked ∨ picked ∈ candidates := by
  induction candidates generalizing best with
  | nil =>
      exact Or.inl result
  | cons candidate rest inductionHypothesis =>
      rcases inductionHypothesis result with fromBest | inRest
      · unfold pick at fromBest
        split at fromBest
        · cases fromBest
          simp
        · split at fromBest
          · cases fromBest
            simp
          · split at fromBest
            · cases fromBest
              simp
            · exact Or.inl fromBest
      · exact Or.inr (List.mem_cons_of_mem _ inRest)

end Occurrence

namespace Needles

/-- The needles with their indices. -/
def candidates (needles : Needles) : List Match :=
  needles.zipIdx.map fun (needle, index) => ⟨index, needle⟩

/-- A candidate has the index of its needle in the list. -/
theorem getElem?_of_mem_candidates
    {needles : Needles}
    {candidate : Match}
    (member : candidate ∈ needles.candidates) :
    needles[candidate.index]? = some candidate.needle := by
  obtain ⟨⟨needle, index⟩, listed, rfl⟩ := List.mem_map.mp member
  exact List.mem_zipIdx_iff_getElem?.mp listed

/-- The longest needle among those that satisfy a test. -/
def longest?
    (needles : Needles)
    (test : Text → Bool) :
    Option Nat :=
  let matched := needles.candidates.filter fun candidate => test candidate.needle
  (matched.foldl Match.pick none).map Match.index

/-- The index of the longest needle that the text starts with. -/
def startsWith? (needles : Needles) (text : Text) : Option Nat :=
  needles.longest? fun needle => needle.isPrefixOf text

/-- The index of the longest needle that the text ends with. -/
def endsWith? (needles : Needles) (text : Text) : Option Nat :=
  needles.longest? fun needle => needle.isSuffixOf text

/-- The index of the first needle that is the whole text. -/
def equal? (needles : Needles) (text : Text) : Option Nat :=
  needles.findIdx? (· == text)

/-- The first occurrence of one candidate at or after `start`; an empty needle has none. -/
def occurrence?
    (text : Text)
    (start : Nat)
    (candidate : Match) :
    Option Occurrence :=
  if candidate.needle = [] then
    none
  else
    (text.find? candidate.needle start).map fun position => ⟨position, candidate⟩

/-- The earliest occurrence of a needle that is not empty, at or after `start`. -/
def earliest?
    (needles : Needles)
    (text : Text)
    (start : Nat) :
    Option Occurrence :=
  (needles.candidates.filterMap (occurrence? text start)).foldl Occurrence.pick none

/-- What is found is a candidate that is not empty, where it first occurs. -/
theorem candidate_of_earliest?
    {needles : Needles}
    {text : Text}
    {start : Nat}
    {occurrence : Occurrence}
    (found : needles.earliest? text start = some occurrence) :
    occurrence.found ∈ needles.candidates ∧
      occurrence.found.needle ≠ [] ∧
      text.find? occurrence.found.needle start = some occurrence.position := by
  rcases Occurrence.eq_or_mem_of_foldl_pick found with impossible | member
  · cases impossible
  · obtain ⟨candidate, listed, occurs⟩ := List.mem_filterMap.mp member
    unfold occurrence? at occurs
    split at occurs
    · cases occurs
    · next notEmpty =>
        obtain ⟨position, foundAt, same⟩ := Option.map_eq_some_iff.mp occurs
        cases same
        exact ⟨listed, notEmpty, foundAt⟩

/-- A needle that is found is not empty and lies within the text. -/
theorem earliest?_bounds
    {needles : Needles}
    {text : Text}
    {start : Nat}
    {occurrence : Occurrence}
    (found : needles.earliest? text start = some occurrence) :
    0 < occurrence.found.needle.length ∧
      start ≤ occurrence.position ∧
      occurrence.position + occurrence.found.needle.length ≤
        start + (text.drop start).length := by
  obtain ⟨_, notEmpty, foundAt⟩ := candidate_of_earliest? found
  exact ⟨List.length_pos_iff.mpr notEmpty, Text.findFrom_bounds foundAt⟩

/-- The index of the last empty needle. -/
def lastEmpty? (needles : Needles) : Option Nat :=
  ((needles.candidates.filter fun candidate => candidate.needle == []).getLast?).map
    Match.index

theorem getElem?_of_lastEmpty?
    {needles : Needles}
    {index : Nat}
    (last : needles.lastEmpty? = some index) :
    needles[index]? = some [] := by
  obtain ⟨candidate, isLast, rfl⟩ := Option.map_eq_some_iff.mp last
  obtain ⟨listed, empty⟩ := List.mem_filter.mp (List.mem_of_getLast? isLast)
  rw [getElem?_of_mem_candidates listed, eq_of_beq empty]

/--
The position and index of the earliest needle at or after an offset; negative offsets
stand for the start of the text.  An empty needle matches only when no other does, and
then at position zero.
-/
def indexOf?
    (needles : Needles)
    (text : Text)
    (offset : Int) :
    Option (Nat × Nat) :=
  match needles.earliest? text offset.toNat with
  | some occurrence => some (occurrence.position, occurrence.found.index)
  | none => needles.lastEmpty?.map fun index => (0, index)

end Needles

end Splice
