import Splice.Proofs.Needles

namespace Splice

/-!
# The first place where a needle starts

A search for several needles and the question which needle a text starts with are answered
by two different folds.  They agree at every place: a search reports something exactly where
the rest of the text starts with a needle that is not empty, and it reports the needle that
this rest starts with.  So it finds the first such place, and where there is none, an empty
needle is all that can be found.
-/

namespace Needles

variable {needles : Needles} {text : Text} {start index : Nat} {found : Match}

/-! ## What starts at a place -/

/-- The candidates whose needles satisfy a test. -/
def matching (needles : Needles) (test : Text → Bool) : List Match :=
  needles.candidates.filter fun candidate => test candidate.needle

/-- The longest needle that satisfies a test is the first of the longest candidates that do. -/
theorem longest?_eq_some_iff {test : Text → Bool} :
    needles.longest? test = some index ↔
      ∃ picked, Match.FirstLongest (needles.matching test) picked ∧ picked.index = index := by
  rw [longest?, Option.map_eq_some_iff]
  simp only [Match.foldl_pick_eq_some_iff]
  rfl

/-- A search picks among the candidates that the text starts with, less the empty ones. -/
theorem filter_starts (needles : Needles) (text : Text) :
    needles.candidates.filter (Match.starts text) =
      (needles.matching fun needle => needle.isPrefixOf text).filter fun candidate =>
        candidate.needle != [] := by
  rw [matching, List.filter_filter]
  rfl

/--
What a search reports at a place is the needle that the text starts with there, if that needle
is not empty.
-/
theorem matchAt?_eq_some_iff :
    needles.matchAt? text = some found ↔
      needles.startsWith? text = some found.index ∧
        needles[found.index]? = some found.needle ∧
        found.needle ≠ [] := by
  rw [matchAt?, filter_starts, Match.foldl_pick_eq_some_iff, startsWith?, longest?_eq_some_iff]
  constructor
  · intro first
    obtain ⟨isPrefix, notEmpty⟩ := List.mem_filter.mp first.mem
    have listed := getElem?_of_mem_candidates (List.mem_filter.mp isPrefix).1
    have foundNotEmpty : found.needle ≠ [] := bne_iff_ne.mp notEmpty
    -- The longest of all prefixes is not empty either, so that no other one is reported.
    obtain ⟨picked, _, pickedFirst⟩ := Match.exists_foldl_pick isPrefix
    have longer := pickedFirst.length_le isPrefix
    have pickedNotEmpty : picked.needle ≠ [] := by
      rw [← List.length_pos_iff] at foundNotEmpty ⊢
      omega
    have pickedReported :=
      pickedFirst.filter (fun candidate => candidate.needle != [])
        (bne_iff_ne.mpr pickedNotEmpty)
    obtain rfl := pickedReported.unique first
    exact ⟨⟨picked, pickedFirst, rfl⟩, listed, foundNotEmpty⟩
  · rintro ⟨⟨picked, pickedFirst, sameIndex⟩, listed, notEmpty⟩
    have pickedListed :=
      getElem?_of_mem_candidates (List.mem_filter.mp pickedFirst.mem).1
    rw [sameIndex, listed, Option.some.injEq] at pickedListed
    have same : picked = found := by
      cases picked
      cases found
      simp_all
    subst same
    exact pickedFirst.filter _ (bne_iff_ne.mpr notEmpty)

theorem matchAt?_nil : needles.matchAt? [] = none := by
  cases reported : needles.matchAt? [] with
  | none =>
      rfl
  | some found =>
      obtain ⟨notEmpty, isPrefix⟩ := Match.starts_iff.mp (starts_of_matchAt? reported)
      exact (notEmpty (List.prefix_nil.mp isPrefix)).elim

/-! ## The first place -/

/-- From `start` on, a search reports nothing in front of the occurrence, and it reports that. -/
structure FirstPlace
    (needles : Needles)
    (text : Text)
    (start : Nat)
    (occurrence : Occurrence) : Prop where
  start_le : start ≤ occurrence.position
  reported : needles.matchAt? (text.drop occurrence.position) = some occurrence.found
  nothingBefore :
    ∀ place, start ≤ place → place < occurrence.position →
      needles.matchAt? (text.drop place) = none

/-- A search finds the first place where it would report something, or there is none. -/
theorem earliest?_cases (needles : Needles) (text : Text) (start : Nat) :
    (∃ occurrence,
        needles.earliest? text start = some occurrence ∧
          FirstPlace needles text start occurrence) ∨
      needles.earliest? text start = none ∧
        ∀ place, start ≤ place → needles.matchAt? (text.drop place) = none := by
  induction remaining : text.length - start generalizing start with
  | zero =>
      have beyond : text.length ≤ start := by omega
      refine Or.inr ⟨earliest?_of_length_le beyond, ?_⟩
      intro place reached
      rw [List.drop_eq_nil_of_le (Nat.le_trans beyond reached), matchAt?_nil]
  | succ remaining inductionHypothesis =>
      rw [earliest?_eq]
      cases reported : needles.matchAt? (text.drop start) with
      | some found =>
          refine Or.inl ⟨⟨start, found⟩, rfl, Nat.le_refl start, reported, ?_⟩
          intro place reached inFront
          exact (Nat.not_lt_of_le reached inFront).elim
      | none =>
          have behind {place : Nat} (reached : start ≤ place)
              (notHere : start + 1 ≤ place → needles.matchAt? (text.drop place) = none) :
              needles.matchAt? (text.drop place) = none := by
            rcases Nat.eq_or_lt_of_le reached with rfl | further
            · exact reported
            · exact notHere further
          rcases inductionHypothesis (start + 1) (by omega) with
            ⟨occurrence, result, first⟩ | ⟨result, nothing⟩
          · refine Or.inl ⟨occurrence, result, Nat.le_of_succ_le first.start_le,
              first.reported, ?_⟩
            intro place reached inFront
            exact behind reached fun further => first.nothingBefore place further inFront
          · exact Or.inr ⟨result, fun place reached => behind reached (nothing place)⟩

/-! ## The last empty needle -/

/-- The candidates stand in the order of their indices. -/
theorem pairwise_index_candidates (needles : Needles) :
    needles.candidates.Pairwise fun earlier later => earlier.index < later.index := by
  rw [candidates, List.pairwise_map, List.pairwise_iff_getElem]
  intro earlier later earlierInside laterInside inFront
  simpa using inFront

theorem mem_candidates_iff {candidate : Match} :
    candidate ∈ needles.candidates ↔ needles[candidate.index]? = some candidate.needle := by
  constructor
  · exact getElem?_of_mem_candidates
  · intro listed
    exact List.mem_map.mpr
      ⟨(candidate.needle, candidate.index), List.mem_zipIdx_iff_getElem?.mpr listed, rfl⟩

/-- No empty needle has a greater index than the last one, and if there is none, none is empty. -/
theorem lastEmpty?_cases (needles : Needles) :
    (∃ index,
        needles.lastEmpty? = some index ∧
          needles[index]? = some [] ∧
          ∀ other, needles[other]? = some [] → other ≤ index) ∨
      needles.lastEmpty? = none ∧ [] ∉ needles := by
  have memEmpties {index : Nat} (empty : needles[index]? = some []) :
      ⟨index, []⟩ ∈ needles.candidates.filter fun candidate => candidate.needle == [] :=
    List.mem_filter.mpr ⟨mem_candidates_iff.mpr empty, rfl⟩
  cases last : needles.lastEmpty? with
  | none =>
      rw [lastEmpty?, Option.map_eq_none_iff, List.getLast?_eq_none_iff] at last
      refine Or.inr ⟨rfl, fun member => ?_⟩
      obtain ⟨index, empty⟩ := List.mem_iff_getElem?.mp member
      have impossible := memEmpties empty
      rw [last] at impossible
      cases impossible
  | some index =>
      refine Or.inl ⟨index, rfl, getElem?_of_lastEmpty? last, fun other empty => ?_⟩
      obtain ⟨candidate, isLast, rfl⟩ := Option.map_eq_some_iff.mp last
      obtain ⟨earlier, empties⟩ := List.getLast?_eq_some_iff.mp isLast
      have ordered :=
        needles.pairwise_index_candidates.filter fun candidate => candidate.needle == []
      have member := memEmpties empty
      rw [empties] at ordered member
      rcases List.mem_append.mp member with inFront | isLast
      · have smaller := (List.pairwise_append.mp ordered).2.2 _ inFront candidate (by simp)
        exact Nat.le_of_lt smaller
      · exact Nat.le_of_eq (congrArg Match.index (List.mem_singleton.mp isLast))

/-! ## The search beside the question what a text starts with -/

/--
From an offset on, or from the start of the text if the offset is negative: at the place the
text starts with the needle of that index, which is not empty.
-/
def StartsFrom
    (needles : Needles)
    (text : Text)
    (offset : Int)
    (place index : Nat) : Prop :=
  (max 0 offset ≤ place ∧ place ≤ text.length) ∧
    needles.startsWith? (text.drop place) = some index ∧
    ∃ needle, needles[index]? = some needle ∧ needle ≠ []

/-- Such places are those where a search reports something; none of them is beyond the text. -/
theorem startsFrom_iff
    {offset : Int}
    {place : Nat} :
    needles.StartsFrom text offset place index ↔
      offset.toNat ≤ place ∧
        ∃ found, needles.matchAt? (text.drop place) = some found ∧ found.index = index := by
  constructor
  · rintro ⟨⟨reached, _⟩, starts, needle, listed, notEmpty⟩
    exact ⟨by omega, ⟨index, needle⟩, matchAt?_eq_some_iff.mpr ⟨starts, listed, notEmpty⟩, rfl⟩
  · rintro ⟨reached, found, reported, rfl⟩
    obtain ⟨starts, listed, notEmpty⟩ := matchAt?_eq_some_iff.mp reported
    have within : place ≤ text.length := by
      by_contra beyond
      rw [List.drop_eq_nil_of_le (Nat.le_of_not_le beyond), matchAt?_nil] at reported
      cases reported
    exact ⟨⟨by omega, within⟩, starts, found.needle, listed, notEmpty⟩

/-- The first place where a search reports something is the least where a needle starts. -/
theorem FirstPlace.isLeast
    {offset : Int}
    {occurrence : Occurrence}
    (first : FirstPlace needles text offset.toNat occurrence) :
    needles.StartsFrom text offset occurrence.position occurrence.found.index ∧
      ∀ other otherIndex,
        needles.StartsFrom text offset other otherIndex → occurrence.position ≤ other := by
  refine ⟨startsFrom_iff.mpr ⟨first.start_le, occurrence.found, first.reported, rfl⟩, ?_⟩
  intro other otherIndex starts
  obtain ⟨reached, found, reported, _⟩ := startsFrom_iff.mp starts
  by_contra inFront
  rw [first.nothingBefore other reached (Nat.lt_of_not_le inFront)] at reported
  cases reported

end Needles

/--
A search for several needles finds the first place from the offset on at which the text starts
with a needle that is not empty, and names the needle that the text starts with there.  If there
is no such place, it finds the last of the empty needles at position zero, or nothing where no
needle is empty.
-/
theorem indexOf?_finds_first_start
    (needles : Needles)
    (text : Text)
    (offset : Int) :
    ((∃ place index, needles.StartsFrom text offset place index) →
        ∃ place index,
          needles.StartsFrom text offset place index ∧
            (∀ other otherIndex,
              needles.StartsFrom text offset other otherIndex → place ≤ other) ∧
            needles.indexOf? text offset = some (place, index)) ∧
      ((¬∃ place index, needles.StartsFrom text offset place index) →
        ([] ∈ needles →
            ∃ index,
              needles[index]? = some [] ∧
                (∀ other, needles[other]? = some [] → other ≤ index) ∧
                needles.indexOf? text offset = some (0, index)) ∧
          ([] ∉ needles → needles.indexOf? text offset = none)) := by
  rw [Needles.indexOf?]
  rcases needles.earliest?_cases text offset.toNat with
    ⟨occurrence, result, first⟩ | ⟨result, nothing⟩
  · obtain ⟨starts, least⟩ := first.isLeast
    rw [result]
    constructor
    · intro _
      exact ⟨occurrence.position, occurrence.found.index, starts, least, rfl⟩
    · intro noPlace
      exact (noPlace ⟨_, _, starts⟩).elim
  · rw [result]
    constructor
    · rintro ⟨place, index, starts⟩
      obtain ⟨reached, found, reported, _⟩ := Needles.startsFrom_iff.mp starts
      rw [nothing place reached] at reported
      cases reported
    · intro _
      rcases needles.lastEmpty?_cases with ⟨index, last, empty, greatest⟩ | ⟨last, noneEmpty⟩
      · rw [last]
        refine ⟨fun _ => ⟨index, empty, greatest, rfl⟩, fun noneEmpty => ?_⟩
        exact (noneEmpty (List.mem_of_getElem? empty)).elim
      · rw [last]
        exact ⟨fun someEmpty => (noneEmpty someEmpty).elim, fun _ => rfl⟩

/-- The longer of two delimiters at one place is named; the last empty needle is a last resort. -/
example :
    let needles : Needles := [[], ['\n'], ['\r'], ['\r', '\n'], []]
    needles.indexOf? ['a', '\r', '\n', 'b'] (-2) = some (1, 3) ∧
      needles.indexOf? ['a', '\r', '\n', 'b'] 3 = some (0, 4) := by
  decide

end Splice
