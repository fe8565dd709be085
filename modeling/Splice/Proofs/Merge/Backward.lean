import Splice.Merge.Backward
import Splice.Proofs.Merge.Hull

namespace Splice

/-!
# Merging backward

The footprint of a backward merge has the hull of the edits from which it was made, in
the text before them.  Its edit reads the text behind the batch in the range that this
hull comes to, so a single edit with the same hull that leads to that text is the one
that the merge returns.
-/

variable {α : Type}

namespace Footprint

/-- The hull of the edits that the footprint stands for. -/
def hull (footprint : Footprint) : Hull where
  start := footprint.offset
  stop := footprint.offset + footprint.length
  growth := -footprint.shrinkage

@[simp]
theorem hull_ofEdit (edit : Edit α) : (ofEdit edit).hull = Hull.ofEdit edit := by
  simp only [hull, ofEdit, shrinkage, Hull.ofEdit, Edit.growth, Edit.stop, Hull.mk.injEq,
    true_and]
  omega

theorem hull_extendAfter
    {footprint : Footprint}
    {edit : Edit α}
    (extent : 0 ≤ footprint.length)
    (place : footprint.placement edit = .after) :
    (footprint.extendAfter edit).hull = (Hull.ofEdit edit).andThen footprint.hull := by
  have beyond := Placement.ofRanges_eq_after_iff.mp place
  simp only [extendAfter, hull, shrinkage, Hull.andThen, Hull.ofEdit, Edit.growth,
    Edit.stop, Hull.mk.injEq]
  omega

theorem hull_extendBefore
    {footprint : Footprint}
    {edit : Edit α}
    (extent : 0 ≤ footprint.length)
    (place : footprint.placement edit = .before) :
    (footprint.extendBefore edit).hull = (Hull.ofEdit edit).andThen footprint.hull := by
  have ahead := Placement.ofRanges_eq_before_iff.mp place
  simp only [extendBefore, hull, shrinkage, Hull.andThen, Hull.ofEdit, Edit.growth,
    Edit.stop, Hull.mk.injEq]
  omega

theorem hull_overwrite (footprint : Footprint) (edit : Edit α) :
    (footprint.overwrite edit).hull = (Hull.ofEdit edit).andThen footprint.hull := by
  simp only [overwrite, hull, shrinkage, Hull.andThen, Hull.ofEdit, Edit.growth,
    Edit.stop, Hull.mk.injEq]
  omega

/-- Wherever an edit lies, a footprint that absorbs it puts its hull in front. -/
theorem hull_absorb
    {footprint : Footprint}
    (extent : 0 ≤ footprint.length)
    (edit : Edit α) :
    (footprint.absorb edit).hull = (Hull.ofEdit edit).andThen footprint.hull := by
  unfold absorb
  cases place : footprint.placement edit with
  | after =>
      exact hull_extendAfter extent place
  | before =>
      exact hull_extendBefore extent place
  | overlap =>
      exact hull_overwrite footprint edit

theorem length_nonneg_of_ofBatch
    {footprint : Footprint}
    {seen : List (Edit α)}
    (covers : Hull.ofBatch seen = some footprint.hull) :
    0 ≤ footprint.length := by
  have ordered := Hull.start_le_stop_of_ofBatch covers
  simp only [hull] at ordered
  omega

/-- A run over earlier edits, the latest first, adds their hulls from right to left. -/
theorem ofBatch_of_foldl_absorb
    {footprint : Footprint}
    {earlier seen : List (Edit α)}
    (covers : Hull.ofBatch seen = some footprint.hull) :
    Hull.ofBatch (earlier.reverse ++ seen) =
      some (earlier.foldl absorb footprint).hull := by
  induction earlier generalizing footprint seen with
  | nil =>
      exact covers
  | cons edit earlier inductionHypothesis =>
      have extent := length_nonneg_of_ofBatch covers
      have covers' : Hull.ofBatch (edit :: seen) = some (footprint.absorb edit).hull := by
        rw [Hull.ofBatch_cons, covers, hull_absorb extent]
        rfl
      simpa using inductionHypothesis covers'

theorem edit_eq_ok_iff
    {result : Text α}
    {footprint : Footprint}
    {merged : Edit α} :
    footprint.edit result = .ok merged ↔
      ∃ text,
        0 ≤ footprint.length ∧
          result.fetch footprint.offset footprint.textLength = .ok text ∧
          merged = ⟨footprint.offset, footprint.length.toNat, text⟩ := by
  by_cases negative : footprint.length < 0
  · have notNegative : ¬0 ≤ footprint.length := Int.not_le.mpr negative
    simp [edit, negative, notNegative, bind, Except.bind, throw, throwThe,
      MonadExceptOf.throw]
  · cases fetched : result.fetch footprint.offset footprint.textLength with
    | error error =>
        simp [edit, negative, fetched, bind, Except.bind]
    | ok text =>
        simp [edit, negative, fetched, bind, Except.bind, pure, Except.pure, eq_comm,
          Int.not_lt.mp negative]

theorem hull_of_edit
    {result : Text α}
    {footprint : Footprint}
    {merged : Edit α}
    (finished : footprint.edit result = .ok merged) :
    Hull.ofEdit merged = footprint.hull := by
  obtain ⟨text, notNegative, fetched, rfl⟩ := edit_eq_ok_iff.mp finished
  have textLength := Text.length_of_fetch fetched
  simp only [Hull.ofEdit, hull, shrinkage, Edit.growth, Edit.stop, Hull.mk.injEq, true_and]
  omega

/-- An edit with the footprint's hull that leads to the result is read off the result. -/
theorem edit_eq_ok_of_apply
    {source result : Text α}
    {footprint : Footprint}
    {merged : Edit α}
    (sameHull : Hull.ofEdit merged = footprint.hull)
    (applied : source.apply merged = .ok result) :
    footprint.edit result = .ok merged := by
  obtain ⟨before, removed, behind, rfl, rfl, offset, length⟩ :=
    Text.exists_parts_of_apply applied
  simp only [Hull.ofEdit, hull, shrinkage, Edit.growth, Edit.stop, Hull.mk.injEq] at sameHull
  obtain ⟨start, stop, growth⟩ := sameHull
  rw [edit_eq_ok_iff]
  refine ⟨merged.text, by omega, ?_, ?_⟩
  · apply Text.fetch_append <;> omega
  · rw [← start, show footprint.length.toNat = merged.length by omega]

end Footprint

/-- A backward merge begins with the footprint of the last edit. -/
theorem mergeBackward_eq_ok_iff_of_reverse
    {batch earlier : List (Edit α)}
    {last : Edit α}
    {result : Text α}
    {answer : Option (Edit α)}
    (reversed : batch.reverse = last :: earlier) :
    mergeBackward batch result = .ok answer ↔
      ∃ merged,
        (earlier.foldl Footprint.absorb (.ofEdit last)).edit result = .ok merged ∧
          answer = some merged := by
  unfold mergeBackward
  rw [reversed]
  constructor
  · intro returned
    obtain ⟨merged, finished, made⟩ := bind_eq_ok_iff.mp returned
    cases made
    exact ⟨merged, finished, rfl⟩
  · rintro ⟨merged, finished, rfl⟩
    exact bind_eq_ok_iff.mpr ⟨merged, finished, rfl⟩

/-- The footprint at the end of a backward merge has the hull of the batch. -/
theorem ofBatch_of_reverse
    {batch earlier : List (Edit α)}
    {last : Edit α}
    (reversed : batch.reverse = last :: earlier) :
    Hull.ofBatch batch = some (earlier.foldl Footprint.absorb (.ofEdit last)).hull := by
  have covers : Hull.ofBatch [last] = some (Footprint.ofEdit last).hull := by
    simp
  rw [show batch = earlier.reverse ++ [last] by simpa using congrArg List.reverse reversed]
  exact Footprint.ofBatch_of_foldl_absorb covers

/-- Whatever the text, an edit that a backward merge returns has the hull of the batch. -/
theorem ofBatch_of_mergeBackward
    {result : Text α}
    {batch : List (Edit α)}
    {merged : Edit α}
    (returned : mergeBackward batch result = .ok (some merged)) :
    Hull.ofBatch batch = some (.ofEdit merged) := by
  cases reversed : batch.reverse with
  | nil =>
      simp [mergeBackward, reversed] at returned
  | cons last earlier =>
      obtain ⟨merged, finished, same⟩ :=
        (mergeBackward_eq_ok_iff_of_reverse reversed).mp returned
      cases same
      rw [ofBatch_of_reverse reversed, Footprint.hull_of_edit finished]

/-- The one edit with the hull of the batch that leads to the result is what is returned. -/
theorem mergeBackward_eq_ok_of_apply
    {source result : Text α}
    {batch : List (Edit α)}
    {merged : Edit α}
    (covers : Hull.ofBatch batch = some (.ofEdit merged))
    (applied : source.apply merged = .ok result) :
    mergeBackward batch result = .ok (some merged) := by
  cases reversed : batch.reverse with
  | nil =>
      rw [List.reverse_eq_nil_iff] at reversed
      subst reversed
      cases covers
  | cons last earlier =>
      rw [ofBatch_of_reverse reversed, Option.some.injEq] at covers
      rw [mergeBackward_eq_ok_iff_of_reverse reversed]
      exact ⟨merged, Footprint.edit_eq_ok_of_apply covers.symm applied, rfl⟩

end Splice
