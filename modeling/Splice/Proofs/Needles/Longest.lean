import Splice.Proofs.Needles.Places

namespace Splice

/-!
# The longest needle at either end

Which needle a text starts or ends with is settled by one fold over the needles that match,
where only a longer needle takes the place of the one held so far.  It comes to the longest of
them and, of equally long ones, to that with the least index.  The fold looks at nothing but
lengths, so that a text ends with a needle as its mirror image starts with that of the needle.
-/

namespace Needles

variable {needles : Needles} {test : Text → Bool} {index : Nat}

/--
The needle with that index satisfies the test; none that does is longer, and an equally long one
has no smaller index.
-/
def FirstLongestAt
    (needles : Needles)
    (test : Text → Prop)
    (index : Nat) : Prop :=
  ∃ needle,
    needles[index]? = some needle ∧
      test needle ∧
      ∀ other otherNeedle,
        needles[other]? = some otherNeedle →
          test otherNeedle →
            otherNeedle.length ≤ needle.length ∧
              (otherNeedle.length = needle.length → index ≤ other)

/-- In the order of their indices, the first longest match is the longest with the least index. -/
theorem firstLongest_iff_of_pairwise_index
    {candidates : List Match}
    {picked : Match}
    (ordered : candidates.Pairwise fun earlier later => earlier.index < later.index) :
    Match.FirstLongest candidates picked ↔
      picked ∈ candidates ∧
        ∀ other ∈ candidates,
          other.needle.length ≤ picked.needle.length ∧
            (other.needle.length = picked.needle.length → picked.index ≤ other.index) := by
  constructor
  · intro first
    refine ⟨first.mem, fun other member => ⟨first.length_le member, fun equallyLong => ?_⟩⟩
    obtain ⟨before, behind, rfl, shorter, _⟩ := first
    rcases List.mem_append.mp member with inFront | inRest
    · have isShorter := shorter other inFront
      omega
    · rcases List.mem_cons.mp inRest with rfl | isBehind
      · exact Nat.le_refl _
      · have orderedBehind := List.pairwise_cons.mp (List.pairwise_append.mp ordered).2.1
        exact Nat.le_of_lt (orderedBehind.1 other isBehind)
  · rintro ⟨member, longest⟩
    obtain ⟨before, behind, rfl⟩ := List.append_of_mem member
    refine ⟨before, behind, rfl, ?_, ?_⟩
    · intro other inFront
      -- One that is as long would have the smaller index.
      have smaller := (List.pairwise_append.mp ordered).2.2 other inFront picked (by simp)
      have bounds := longest other (by simp [inFront])
      omega
    · intro other isBehind
      exact (longest other (by simp [isBehind])).1

/-- The needles that satisfy a test are those of the matching candidates, with their indices. -/
theorem mem_matching_iff {candidate : Match} :
    candidate ∈ needles.matching test ↔
      needles[candidate.index]? = some candidate.needle ∧ test candidate.needle = true := by
  rw [matching, List.mem_filter, mem_candidates_iff]

theorem longest?_eq_none_iff :
    needles.longest? test = none ↔ ∀ needle ∈ needles, ¬test needle = true := by
  rw [longest?, Option.map_eq_none_iff, Match.foldl_pick_eq_none_iff, List.filter_eq_nil_iff]
  constructor
  · intro noneMatches needle member
    obtain ⟨index, listed⟩ := List.mem_iff_getElem?.mp member
    exact noneMatches ⟨index, needle⟩ (mem_candidates_iff.mpr listed)
  · intro noneMatches candidate member
    exact noneMatches candidate.needle (List.mem_of_getElem? (mem_candidates_iff.mp member))

/-- The fold comes to the longest needle that satisfies the test, with the least index. -/
theorem longest?_eq_some_iff_firstLongestAt :
    needles.longest? test = some index ↔
      needles.FirstLongestAt (fun needle => test needle = true) index := by
  have ordered : (needles.matching test).Pairwise fun earlier later =>
      earlier.index < later.index :=
    needles.pairwise_index_candidates.filter _
  rw [longest?_eq_some_iff]
  simp only [firstLongest_iff_of_pairwise_index ordered, mem_matching_iff]
  constructor
  · rintro ⟨picked, ⟨⟨listed, passes⟩, longest⟩, rfl⟩
    refine ⟨picked.needle, listed, passes, fun other otherNeedle otherListed otherPasses => ?_⟩
    exact longest ⟨other, otherNeedle⟩ ⟨otherListed, otherPasses⟩
  · rintro ⟨needle, listed, passes, longest⟩
    refine ⟨⟨index, needle⟩, ⟨⟨listed, passes⟩, fun other matched => ?_⟩, rfl⟩
    exact longest other.index other.needle matched.1 matched.2

/-- What keeps the lengths of the needles keeps the index of the longest one. -/
theorem firstLongestAt_map_iff
    {passes : Text → Prop}
    (transform : Text → Text)
    (sameLength : ∀ needle, (transform needle).length = needle.length) :
    FirstLongestAt (needles.map transform) passes index ↔
      needles.FirstLongestAt (fun needle => passes (transform needle)) index := by
  simp only [FirstLongestAt, List.getElem?_map, Option.map_eq_some_iff]
  constructor
  · rintro ⟨_, ⟨needle, listed, rfl⟩, matched, longest⟩
    refine ⟨needle, listed, matched, fun other otherNeedle otherListed otherMatched => ?_⟩
    have bounds := longest other _ ⟨otherNeedle, otherListed, rfl⟩ otherMatched
    rwa [sameLength, sameLength] at bounds
  · rintro ⟨needle, listed, matched, longest⟩
    refine ⟨_, ⟨needle, listed, rfl⟩, matched, ?_⟩
    rintro other _ ⟨otherNeedle, otherListed, rfl⟩ otherMatched
    rw [sameLength, sameLength]
    exact longest other otherNeedle otherListed otherMatched

/-- A text ends with a needle as its mirror image starts with that of the needle. -/
theorem endsWith?_eq_startsWith?_reverse (needles : Needles) (text : Text) :
    needles.endsWith? text = startsWith? (needles.map List.reverse) text.reverse := by
  refine Option.ext fun index => ?_
  rw [startsWith?, longest?_eq_some_iff_firstLongestAt,
    firstLongestAt_map_iff List.reverse fun _ => List.length_reverse]
  exact longest?_eq_some_iff_firstLongestAt

end Needles

/--
The search at the start of a text names no needle exactly if the text starts with none, and
otherwise the longest one that it starts with, of equally long ones the first.  The search at the
end is its mirror image, and so it names by the same rule the longest needle that the text ends
with.
-/
theorem startsWith?_and_endsWith?_name_first_longest (needles : Needles) (text : Text) :
    ((needles.startsWith? text = none ↔ ∀ needle ∈ needles, ¬needle <+: text) ∧
        ∀ index,
          needles.startsWith? text = some index ↔
            needles.FirstLongestAt (fun needle => needle <+: text) index) ∧
      needles.endsWith? text =
        Needles.startsWith? (needles.map List.reverse) text.reverse ∧
      (needles.endsWith? text = none ↔ ∀ needle ∈ needles, ¬needle <:+ text) ∧
        ∀ index,
          needles.endsWith? text = some index ↔
            needles.FirstLongestAt (fun needle => needle <:+ text) index := by
  simp only [← List.isPrefixOf_iff_prefix, ← List.isSuffixOf_iff_suffix]
  exact ⟨⟨Needles.longest?_eq_none_iff, fun _ => Needles.longest?_eq_some_iff_firstLongestAt⟩,
    needles.endsWith?_eq_startsWith?_reverse text, Needles.longest?_eq_none_iff,
    fun _ => Needles.longest?_eq_some_iff_firstLongestAt⟩

/-- An empty needle gives way to any other, and of two that are equally long the first counts. -/
example :
    let needles : Needles := [[], ['b'], ['a', 'b'], ['b', 'a'], ['a', 'b']]
    needles.startsWith? ['a', 'b', 'a'] = some 2 ∧
      needles.endsWith? ['a', 'b', 'a'] = some 3 ∧
      needles.endsWith? ['c'] = some 0 := by
  decide

end Splice
