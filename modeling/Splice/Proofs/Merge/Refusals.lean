import Splice.Proofs.Merge.Backward
import Splice.Proofs.Merge.Forward

namespace Splice

/-!
# When a merge is refused

The edits of a batch need not fit the text that they are merged with, nor one another.
Even so no extent that a merge reckons with becomes negative, so that its edit can always
be formed and a merge is refused for one reason only: it asks the text for a range that
reaches beyond the end.
-/

variable {α : Type}

/-- A range that starts at a place of a text or behind it, and reaches beyond its end. -/
structure RangeError.ReachesBeyond (error : RangeError) (text : Text α) : Prop where
  offset_nonneg : 0 ≤ error.offset
  length_nonneg : 0 ≤ error.length
  total_eq : error.total = text.length
  total_lt_stop : error.total < error.stop

/-- A range without negative numbers is refused only where it reaches beyond the text. -/
theorem Text.reachesBeyond_of_fetch
    {text : Text α}
    {offset length : Int}
    {error : RangeError}
    (offset_nonneg : 0 ≤ offset)
    (length_nonneg : 0 ≤ length)
    (refused : text.fetch offset length = .error error) :
    error.ReachesBeyond text ∧ error.length = length := by
  obtain ⟨misfit, rfl⟩ := fetch_eq_error_iff.mp refused
  rw [fits_iff_of_nonneg offset_nonneg length_nonneg, Int.not_le] at misfit
  exact ⟨⟨offset_nonneg, length_nonneg, rfl, misfit⟩, rfl⟩

namespace Window

variable {source : Text α} {window later : Window α} {edit : Edit α} {error : RangeError}

/-- A window that takes an edit in does not become negative. -/
theorem length_nonneg_of_absorb
    (extent : 0 ≤ window.length)
    (absorbed : window.absorb source edit = .ok later) :
    0 ≤ later.length := by
  have joined := hull_absorb absorbed
  simp only [hull, Hull.andThen, Hull.ofEdit, Edit.stop, Hull.mk.injEq] at joined
  omega

/-- Behind the window a gap is at least one long, and it starts where the window ends. -/
theorem reachesBeyond_of_extendAfter
    (extent : 0 ≤ window.length)
    (place : window.placement edit = .after)
    (refused : window.extendAfter source edit = .error error) :
    error.ReachesBeyond source ∧ 1 ≤ error.length := by
  have beyond := Placement.ofRanges_eq_after_iff.mp place
  have gapExtent :
      1 ≤ edit.offset - window.growth - (window.offset + window.length) := by
    rw [growth]
    omega
  rcases bind_eq_error_iff.mp refused with gapRefused | ⟨_, _, made⟩
  · obtain ⟨reaches, length_eq⟩ :=
      Text.reachesBeyond_of_fetch (by omega) (by omega) gapRefused
    exact ⟨reaches, length_eq ▸ gapExtent⟩
  · cases made

theorem reachesBeyond_of_extendBefore
    (place : window.placement edit = .before)
    (refused : window.extendBefore source edit = .error error) :
    error.ReachesBeyond source ∧ 1 ≤ error.length := by
  have ahead := (Placement.ofRanges_eq_before_iff.mp place).2
  have gapExtent : 1 ≤ (window.offset : Int) - edit.stop := by
    omega
  rcases bind_eq_error_iff.mp refused with gapRefused | ⟨_, _, made⟩
  · obtain ⟨reaches, length_eq⟩ :=
      Text.reachesBeyond_of_fetch (Int.natCast_nonneg _) (by omega) gapRefused
    exact ⟨reaches, length_eq ▸ gapExtent⟩
  · cases made

/-- An edit on a window is never refused, and one beside it only for its gap. -/
theorem reachesBeyond_of_absorb
    (extent : 0 ≤ window.length)
    (refused : window.absorb source edit = .error error) :
    error.ReachesBeyond source ∧ 1 ≤ error.length := by
  unfold absorb at refused
  cases place : window.placement edit with
  | after =>
      rw [place] at refused
      exact reachesBeyond_of_extendAfter extent place refused
  | before =>
      rw [place] at refused
      exact reachesBeyond_of_extendBefore place refused
  | overlap =>
      rw [place] at refused
      cases refused

/-- A run ends with a window that is not negative, or at a gap that the source lacks. -/
theorem foldlM_absorb_cases
    (extent : 0 ≤ window.length)
    (rest : List (Edit α)) :
    (∃ final, rest.foldlM (absorb source) window = .ok final ∧ 0 ≤ final.length) ∨
      ∃ error,
        rest.foldlM (absorb source) window = .error error ∧
          error.ReachesBeyond source ∧
          1 ≤ error.length := by
  induction rest generalizing window with
  | nil =>
      exact Or.inl ⟨window, rfl, extent⟩
  | cons edit rest inductionHypothesis =>
      rw [List.foldlM_cons]
      cases absorbed : window.absorb source edit with
      | error error =>
          exact Or.inr ⟨error, rfl, reachesBeyond_of_absorb extent absorbed⟩
      | ok later =>
          exact inductionHypothesis (length_nonneg_of_absorb extent absorbed)

end Window

namespace Footprint

variable {result : Text α} {footprint : Footprint} {error : RangeError}

theorem textLength_nonneg_of_ofBatch
    {seen : List (Edit α)}
    (covers : Hull.ofBatch seen = some footprint.hull) :
    0 ≤ footprint.textLength := by
  have ordered := Hull.start_le_stop_add_growth_of_ofBatch covers
  simp only [hull, shrinkage] at ordered
  omega

/-- What a footprint comes to is told by the edits that it stands for. -/
theorem extent_of_ofBatch
    {seen : List (Edit α)}
    (covers : Hull.ofBatch seen = some footprint.hull) :
    (seen.map Edit.offset).min? = some footprint.offset ∧
      (Batch.originalStops seen).max? = some (footprint.offset + footprint.length) ∧
      footprint.textLength = footprint.length + Batch.growth seen := by
  obtain ⟨start_eq, stop_eq, growth_eq⟩ := Hull.extent_of_ofBatch covers
  refine ⟨start_eq, stop_eq, ?_⟩
  simp only [← growth_eq, hull, shrinkage]
  omega

/-- A footprint that is not negative is refused only for the text that it asks for. -/
theorem edit_eq_error_iff
    (extent : 0 ≤ footprint.length)
    (textExtent : 0 ≤ footprint.textLength) :
    footprint.edit result = .error error ↔
      result.length < footprint.offset + footprint.textLength ∧
        error = ⟨footprint.offset, footprint.textLength, result.length⟩ := by
  have notNegative : ¬footprint.length < 0 := Int.not_lt.mpr extent
  have misfits :
      ¬Fits footprint.offset footprint.textLength result.length ↔
        result.length < footprint.offset + footprint.textLength := by
    rw [fits_iff_of_nonneg (Int.natCast_nonneg _) textExtent, Int.not_le]
  unfold edit
  rw [if_neg notNegative, ← misfits, ← Text.fetch_eq_error_iff]
  constructor
  · intro refused
    rcases bind_eq_error_iff.mp refused with textRefused | ⟨_, _, made⟩
    · exact textRefused
    · cases made
  · intro textRefused
    exact bind_eq_error_iff.mpr (Or.inl textRefused)

end Footprint

/-- A forward merge gives the edit of its window, or else the refusal of a gap. -/
theorem mergeForward_cons_cases (source : Text α) (first : Edit α) (rest : List (Edit α)) :
    (∃ (window : Window α) (merged : Edit α),
        rest.foldlM (Window.absorb source) (.ofEdit first) = .ok window ∧
          mergeForward source (first :: rest) = .ok (some merged) ∧
          merged.offset = window.offset ∧
          (merged.length : Int) = window.length ∧
          merged.text = window.text) ∨
      ∃ error,
        rest.foldlM (Window.absorb source) (.ofEdit first) = .error error ∧
          mergeForward source (first :: rest) = .error error ∧
          error.ReachesBeyond source ∧
          1 ≤ error.length := by
  have extent : 0 ≤ (Window.ofEdit first).length := Int.natCast_nonneg _
  rcases Window.foldlM_absorb_cases extent rest with ⟨window, run, finalExtent⟩ |
    ⟨error, refused, reaches⟩
  · have finished : window.edit source = .ok ⟨window.offset, window.length.toNat, window.text⟩ :=
      Window.edit_eq_ok_iff.mpr ⟨finalExtent, rfl⟩
    exact Or.inl ⟨window, _, run,
      mergeForward_cons_eq_ok_iff.mpr ⟨window, _, run, finished, rfl⟩, rfl,
      Int.toNat_of_nonneg finalExtent, rfl⟩
  · exact Or.inr ⟨error, refused, bind_eq_error_iff.mpr (Or.inl refused), reaches⟩

/-- A backward merge gives the edit of its footprint, or else the refusal of its text. -/
theorem mergeBackward_concat_cases (earlier : List (Edit α)) (last : Edit α) (result : Text α) :
    let footprint : Footprint := earlier.reverse.foldl Footprint.absorb (.ofEdit last)
    0 ≤ footprint.length ∧
      ((∃ merged : Edit α,
          mergeBackward (earlier ++ [last]) result = .ok (some merged) ∧
            merged.offset = footprint.offset ∧
            (merged.length : Int) = footprint.length ∧
            (merged.text.length : Int) = footprint.textLength ∧
            footprint.offset + footprint.textLength ≤ result.length) ∨
        ∃ error : RangeError,
          mergeBackward (earlier ++ [last]) result = .error error ∧
            error.offset = footprint.offset ∧
            error.length = footprint.textLength ∧
            error.ReachesBeyond result) := by
  intro footprint
  have reversed : (earlier ++ [last]).reverse = last :: earlier.reverse := by
    simp
  have covers := ofBatch_of_reverse reversed
  have extent := Footprint.length_nonneg_of_ofBatch covers
  have textExtent := Footprint.textLength_nonneg_of_ofBatch covers
  refine ⟨extent, ?_⟩
  cases finished : footprint.edit result with
  | ok merged =>
      obtain ⟨text, _, fetched, made⟩ := Footprint.edit_eq_ok_iff.mp finished
      have textLength := Text.length_of_fetch fetched
      have fits := (Text.fetch_eq_ok_iff.mp fetched).1.2.2
      subst made
      exact Or.inl ⟨_, (mergeBackward_eq_ok_iff_of_reverse reversed).mpr ⟨_, finished, rfl⟩, rfl,
        Int.toNat_of_nonneg extent, textLength, fits⟩
  | error error =>
      obtain ⟨beyond, rfl⟩ := (Footprint.edit_eq_error_iff extent textExtent).mp finished
      refine Or.inr
        ⟨⟨footprint.offset, footprint.textLength, result.length⟩, ?_, rfl, rfl,
          Int.natCast_nonneg _, textExtent, rfl, beyond⟩
      rw [mergeBackward, reversed]
      exact bind_eq_error_iff.mpr (Or.inl finished)

/--
Whatever the edits and the text, the merges give nothing for an empty batch, and for any other
an edit or a refusal.  The window of a forward merge does not end up negative: the merge gives
the edit of the window, or it is refused while it takes the edits in, for a gap of at least one
code point that reaches beyond the text.  The footprint of a backward merge does not either: the
merge is refused exactly if the text that it reads at the end reaches beyond.  That text starts
where the leftmost edit starts, and it is as long as the range up to the furthest stop and the
growth of the edits together; the footprint comes to these extents in the end.
-/
theorem merges_are_refused_only_beyond_text (text : Text α) :
    (mergeForward text [] = .ok none ∧ mergeBackward [] text = .ok none) ∧
      (∀ first rest,
        (∃ (window : Window α) (merged : Edit α),
            rest.foldlM (Window.absorb text) (.ofEdit first) = .ok window ∧
              mergeForward text (first :: rest) = .ok (some merged) ∧
              merged.offset = window.offset ∧
              (merged.length : Int) = window.length ∧
              merged.text = window.text) ∨
          ∃ error,
            rest.foldlM (Window.absorb text) (.ofEdit first) = .error error ∧
              mergeForward text (first :: rest) = .error error ∧
              error.ReachesBeyond text ∧
              1 ≤ error.length) ∧
      ∀ earlier last,
        let batch : List (Edit α) := earlier ++ [last]
        let footprint : Footprint := earlier.reverse.foldl Footprint.absorb (.ofEdit last)
        ∃ (start : Nat) (stop textLength : Int),
          ((batch.map Edit.offset).min? = some start ∧
            (Batch.originalStops batch).max? = some stop ∧
            textLength = stop - start + Batch.growth batch) ∧
          (start = footprint.offset ∧
            stop = footprint.offset + footprint.length ∧
            textLength = footprint.textLength) ∧
          0 ≤ footprint.length ∧
          ((∃ merged : Edit α,
              mergeBackward batch text = .ok (some merged) ∧
                merged.offset = start ∧
                (merged.stop : Int) = stop ∧
                (merged.text.length : Int) = textLength) ∨
            ∃ error : RangeError,
              mergeBackward batch text = .error error ∧
                error.offset = start ∧
                error.length = textLength ∧
                error.ReachesBeyond text) ∧
          ((∃ error, mergeBackward batch text = .error error) ↔
            (text.length : Int) < start + textLength) := by
  refine ⟨⟨rfl, rfl⟩, mergeForward_cons_cases text, ?_⟩
  intro earlier last batch footprint
  have reversed : batch.reverse = last :: earlier.reverse := by
    simp [batch]
  have covers : Hull.ofBatch batch = some footprint.hull := ofBatch_of_reverse reversed
  obtain ⟨start_eq, stop_eq, grown⟩ := Footprint.extent_of_ofBatch covers
  have textLength_eq :
      footprint.textLength =
        footprint.offset + footprint.length - footprint.offset + Batch.growth batch := by
    omega
  obtain ⟨extent, outcome⟩ := mergeBackward_concat_cases earlier last text
  refine ⟨footprint.offset, footprint.offset + footprint.length, footprint.textLength,
    ⟨start_eq, stop_eq, textLength_eq⟩, ⟨rfl, rfl, rfl⟩, extent, ?_⟩
  rcases outcome with ⟨merged, returned, offset_eq, length_eq, read_eq, within⟩ |
    ⟨error, refused, offset_eq, length_eq, reaches⟩
  · refine ⟨Or.inl ⟨merged, returned, offset_eq, ?_, read_eq⟩, ?_⟩
    · rw [Edit.stop, offset_eq, Int.natCast_add, length_eq]
    · constructor
      · rintro ⟨error, refused⟩
        cases returned.symm.trans refused
      · intro beyond
        exact (Int.not_lt.mpr within beyond).elim
  · refine ⟨Or.inr ⟨error, refused, offset_eq, length_eq, reaches⟩, ?_⟩
    constructor
    · intro _
      have beyond := reaches.total_lt_stop
      rwa [reaches.total_eq, RangeError.stop, offset_eq, length_eq] at beyond
    · intro _
      exact ⟨error, refused⟩

end Splice
