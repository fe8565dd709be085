import Splice.Merge.Forward
import Splice.Proofs.Merge.Hull

namespace Splice

/-!
# Merging forward

Whatever the source, the window of a forward merge has the hull of the edits that it has
absorbed, also behind an edit that does not fit.  As long as the edits fit, the source
answers every gap, and the window replaces a part of it so that the text the edits have
led to comes out.
-/

variable {α : Type}

namespace Window

/-- The hull of the edits that the window stands for. -/
def hull (window : Window α) : Hull where
  start := window.offset
  stop := window.offset + window.length
  growth := window.growth

@[simp]
theorem hull_ofEdit (edit : Edit α) : (ofEdit edit).hull = Hull.ofEdit edit := by
  simp [hull, ofEdit, growth, Hull.ofEdit, Edit.growth, Edit.stop]

/-- What a window is after an edit beyond its end. -/
theorem extendAfter_eq_ok_iff
    {source : Text α}
    {window later : Window α}
    {edit : Edit α} :
    window.extendAfter source edit = .ok later ↔
      ∃ gap,
        source.fetch (window.offset + window.length)
            (edit.offset - window.growth - (window.offset + window.length)) =
          .ok gap ∧
        later =
          { offset := window.offset
            length := edit.offset - window.growth + edit.length - window.offset
            text := window.text ++ gap ++ edit.text } := by
  unfold extendAfter
  rw [bind_eq_ok_iff]
  constructor
  · rintro ⟨gap, fetched, made⟩
    cases made
    exact ⟨gap, fetched, rfl⟩
  · rintro ⟨gap, fetched, rfl⟩
    exact ⟨gap, fetched, rfl⟩

theorem extendBefore_eq_ok_iff
    {source : Text α}
    {window later : Window α}
    {edit : Edit α} :
    window.extendBefore source edit = .ok later ↔
      ∃ gap,
        source.fetch edit.stop (window.offset - edit.stop) = .ok gap ∧
        later =
          { offset := edit.offset
            length := window.offset + window.length - edit.offset
            text := edit.text ++ gap ++ window.text } := by
  unfold extendBefore
  rw [bind_eq_ok_iff]
  constructor
  · rintro ⟨gap, fetched, made⟩
    cases made
    exact ⟨gap, fetched, rfl⟩
  · rintro ⟨gap, fetched, rfl⟩
    exact ⟨gap, fetched, rfl⟩

theorem hull_extendAfter
    {source : Text α}
    {window later : Window α}
    {edit : Edit α}
    (place : window.placement edit = .after)
    (extended : window.extendAfter source edit = .ok later) :
    later.hull = window.hull.andThen (.ofEdit edit) := by
  obtain ⟨gap, fetched, rfl⟩ := extendAfter_eq_ok_iff.mp extended
  have gapLength := Text.length_of_fetch fetched
  have beyond := Placement.ofRanges_eq_after_iff.mp place
  simp only [hull, growth, Hull.andThen, Hull.ofEdit, Edit.growth, Edit.stop,
    List.length_append, Hull.mk.injEq] at gapLength ⊢
  omega

theorem hull_extendBefore
    {source : Text α}
    {window later : Window α}
    {edit : Edit α}
    (place : window.placement edit = .before)
    (extended : window.extendBefore source edit = .ok later) :
    later.hull = window.hull.andThen (.ofEdit edit) := by
  obtain ⟨gap, fetched, rfl⟩ := extendBefore_eq_ok_iff.mp extended
  have gapLength := Text.length_of_fetch fetched
  have ahead := Placement.ofRanges_eq_before_iff.mp place
  simp only [hull, growth, Hull.andThen, Hull.ofEdit, Edit.growth, Edit.stop,
    List.length_append, Hull.mk.injEq] at ahead gapLength ⊢
  omega

theorem hull_overwrite
    {window : Window α}
    {edit : Edit α}
    (place : window.placement edit = .overlap) :
    (window.overwrite edit).hull = window.hull.andThen (.ofEdit edit) := by
  have touches := Placement.ofRanges_eq_overlap_iff.mp place
  simp only [overwrite, hull, growth, Hull.andThen, Hull.ofEdit, Edit.growth, Edit.stop,
    List.length_append, List.length_take, List.length_drop, Hull.mk.injEq, true_and]
    at touches ⊢
  omega

/-- Wherever an edit lies, a window that absorbs it takes its hull in. -/
theorem hull_absorb
    {source : Text α}
    {window later : Window α}
    {edit : Edit α}
    (absorbed : window.absorb source edit = .ok later) :
    later.hull = window.hull.andThen (.ofEdit edit) := by
  unfold absorb at absorbed
  cases place : window.placement edit with
  | after =>
      rw [place] at absorbed
      exact hull_extendAfter place absorbed
  | before =>
      rw [place] at absorbed
      exact hull_extendBefore place absorbed
  | overlap =>
      rw [place] at absorbed
      cases absorbed
      exact hull_overwrite place

/-- A run of absorbed edits adds their hulls from left to right. -/
theorem ofBatch_of_foldlM_absorb
    {source : Text α}
    {window final : Window α}
    {seen rest : List (Edit α)}
    (covers : Hull.ofBatch seen = some window.hull)
    (run : rest.foldlM (absorb source) window = .ok final) :
    Hull.ofBatch (seen ++ rest) = some final.hull := by
  induction rest generalizing window seen with
  | nil =>
      cases run
      simpa using covers
  | cons edit rest inductionHypothesis =>
      rw [List.foldlM_cons, bind_eq_ok_iff] at run
      obtain ⟨later, absorbed, restRun⟩ := run
      have covers' : Hull.ofBatch (seen ++ [edit]) = some later.hull := by
        rw [Hull.ofBatch_append, covers, hull_absorb absorbed]
        rfl
      simpa using inductionHypothesis covers' restRun

/-- The window replaces a part of the source by its text, and the text comes out. -/
def Yields (window : Window α) (source text : Text α) : Prop :=
  ∃ before removed behind : Text α,
    source = before ++ removed ++ behind ∧
      text = before ++ window.text ++ behind ∧
      window.offset = before.length ∧
      window.length = removed.length

theorem yields_ofEdit
    {source text : Text α}
    {edit : Edit α}
    (applied : source.apply edit = .ok text) :
    (ofEdit edit).Yields source text := by
  obtain ⟨before, removed, behind, sourceParts, textParts, offset, length⟩ :=
    Text.exists_parts_of_apply applied
  exact ⟨before, removed, behind, sourceParts, textParts, offset, by simp [ofEdit, length]⟩

/-- Of two partings of one text, the later one holds the earlier one's first part. -/
private theorem exists_between_of_append_eq_append
    {front rest before behind : Text α}
    (same : front ++ rest = before ++ behind)
    (within : before.length ≤ front.length) :
    ∃ gap, front = before ++ gap ∧ behind = gap ++ rest := by
  rcases List.append_eq_append_iff.mp same with ⟨gap, beforeParts, restParts⟩ | extended
  · subst beforeParts
    have nothing : gap = [] := by
      rw [List.length_append] at within
      exact List.length_eq_zero_iff.mp (by omega)
    subst nothing
    exact ⟨[], by simp, by simpa using restParts.symm⟩
  · exact extended

/-- An edit beyond a window that yields the text finds its gap in the source. -/
theorem exists_extendAfter_of_yields
    {source text next : Text α}
    {window : Window α}
    {edit : Edit α}
    (yields : window.Yields source text)
    (applied : text.apply edit = .ok next)
    (place : window.placement edit = .after) :
    ∃ later, window.extendAfter source edit = .ok later ∧ later.Yields source next := by
  obtain ⟨before, removed, behind, rfl, textParts, offset, length⟩ := yields
  obtain ⟨front, replaced, rest, textParts', rfl, editOffset, editLength⟩ :=
    Text.exists_parts_of_apply applied
  have beyond := Placement.ofRanges_eq_after_iff.mp place
  -- The edit starts behind the window, so the text in front of it ends with the gap.
  have parted : front ++ (replaced ++ rest) = (before ++ window.text) ++ behind := by
    rw [← textParts, textParts', List.append_assoc]
  obtain ⟨gap, rfl, rfl⟩ :=
    exists_between_of_append_eq_append parted (by rw [List.length_append]; omega)
  simp only [List.length_append] at editOffset
  have fetched :
      Text.fetch (before ++ removed ++ (gap ++ (replaced ++ rest)))
          (window.offset + window.length)
          (edit.offset - window.growth - (window.offset + window.length)) =
        .ok gap := by
    rw [← List.append_assoc]
    apply Text.fetch_append
    · rw [List.length_append]
      omega
    · unfold growth
      omega
  refine ⟨_, extendAfter_eq_ok_iff.mpr ⟨gap, fetched, rfl⟩,
    before, removed ++ gap ++ replaced, rest, ?_, ?_, offset, ?_⟩
  · simp
  · simp
  · simp only [growth, List.length_append]
    omega

theorem exists_extendBefore_of_yields
    {source text next : Text α}
    {window : Window α}
    {edit : Edit α}
    (yields : window.Yields source text)
    (applied : text.apply edit = .ok next)
    (place : window.placement edit = .before) :
    ∃ later, window.extendBefore source edit = .ok later ∧ later.Yields source next := by
  obtain ⟨before, removed, behind, rfl, textParts, offset, length⟩ := yields
  obtain ⟨front, replaced, rest, textParts', rfl, editOffset, editLength⟩ :=
    Text.exists_parts_of_apply applied
  have ahead := Placement.ofRanges_eq_before_iff.mp place
  rw [Edit.stop] at ahead
  -- The edit ends in front of the window, so the text behind it starts with the gap.
  have parted : before ++ (window.text ++ behind) = (front ++ replaced) ++ rest := by
    rw [← textParts', textParts, List.append_assoc]
  obtain ⟨gap, rfl, rfl⟩ :=
    exists_between_of_append_eq_append parted (by rw [List.length_append]; omega)
  simp only [List.length_append] at offset
  have fetched :
      Text.fetch (front ++ replaced ++ gap ++ removed ++ behind) edit.stop
          (window.offset - edit.stop) =
        .ok gap := by
    rw [List.append_assoc _ removed behind]
    apply Text.fetch_append
    · rw [List.length_append, Edit.stop]
      omega
    · unfold Edit.stop
      omega
  refine ⟨_, extendBefore_eq_ok_iff.mpr ⟨gap, fetched, rfl⟩,
    front, replaced ++ gap ++ removed, behind, ?_, ?_, editOffset, ?_⟩
  · simp
  · simp
  · simp only [List.length_append]
    omega

private theorem drop_min_length (text : Text α) (count : Nat) :
    text.drop (min text.length count) = text.drop count := by
  rcases Nat.le_total text.length count with beyond | within
  · rw [Nat.min_eq_left beyond, List.drop_eq_nil_of_le beyond, List.drop_length]
  · rw [Nat.min_eq_right within]

/-- What an edit on a window leaves of the text in front of it and behind it. -/
private theorem replaceRange_overlapping
    {before middle behind replacement : Text α}
    {offset length : Nat}
    (startsWithin : offset ≤ before.length + middle.length)
    (stopsWithin : before.length ≤ offset + length) :
    Text.replaceRange (before ++ middle ++ behind) offset length replacement =
      before.take offset ++
        (middle.take (offset - before.length) ++ replacement ++
          middle.drop (min middle.length (offset + length - before.length))) ++
        behind.drop (offset + length - (before.length + middle.length)) := by
  have front :
      (before ++ middle ++ behind).take offset =
        before.take offset ++ middle.take (offset - before.length) := by
    rw [List.take_append_of_le_length (by rwa [List.length_append]), List.take_append]
  have rest :
      (before ++ middle ++ behind).drop (offset + length) =
        middle.drop (offset + length - before.length) ++
          behind.drop (offset + length - (before.length + middle.length)) := by
    rw [List.append_assoc, List.drop_append, List.drop_eq_nil_of_le stopsWithin,
      List.nil_append, List.drop_append, Nat.sub_sub]
  rw [Text.replaceRange, front, rest, drop_min_length]
  simp only [List.append_assoc]

/-- An edit on a window that yields the text needs nothing from the source. -/
theorem yields_overwrite
    {source text next : Text α}
    {window : Window α}
    {edit : Edit α}
    (yields : window.Yields source text)
    (applied : text.apply edit = .ok next)
    (place : window.placement edit = .overlap) :
    (window.overwrite edit).Yields source next := by
  obtain ⟨before, removed, behind, rfl, rfl, offset, length⟩ := yields
  obtain ⟨fits, rfl⟩ := Text.apply_eq_ok_iff.mp applied
  have touches := Placement.ofRanges_eq_overlap_iff.mp place
  rw [Edit.stop] at touches fits
  simp only [List.length_append] at fits
  -- What the edit takes beyond the window moves from the text into the replaced part.
  refine ⟨before.take edit.offset,
    before.drop edit.offset ++ removed ++
      behind.take (edit.stop - (before.length + window.text.length)),
    behind.drop (edit.stop - (before.length + window.text.length)), ?_, ?_, ?_, ?_⟩
  · calc
      before ++ removed ++ behind =
          (before.take edit.offset ++ before.drop edit.offset) ++ removed ++
            (behind.take (edit.stop - (before.length + window.text.length)) ++
              behind.drop (edit.stop - (before.length + window.text.length))) := by
        rw [List.take_append_drop, List.take_append_drop]
      _ = _ := by
        simp only [List.append_assoc]
  · rw [replaceRange_overlapping (by omega) (by omega)]
    simp only [overwrite, offset, Edit.stop]
  · simp only [overwrite, offset, List.length_take]
    exact Nat.min_comm _ _
  · simp only [overwrite, growth, Edit.growth, Edit.stop, List.length_append,
      List.length_take, List.length_drop]
    omega

/-- A window that yields the text absorbs an edit of the text, and yields what it leads to. -/
theorem exists_absorb_of_yields
    {source text next : Text α}
    {window : Window α}
    {edit : Edit α}
    (yields : window.Yields source text)
    (applied : text.apply edit = .ok next) :
    ∃ later, window.absorb source edit = .ok later ∧ later.Yields source next := by
  unfold absorb
  cases place : window.placement edit with
  | after =>
      exact exists_extendAfter_of_yields yields applied place
  | before =>
      exact exists_extendBefore_of_yields yields applied place
  | overlap =>
      exact ⟨_, rfl, yields_overwrite yields applied place⟩

/-- A window absorbs a batch that applies to the text it yields. -/
theorem exists_foldlM_absorb_of_yields
    {source text result : Text α}
    {window : Window α}
    {batch : List (Edit α)}
    (yields : window.Yields source text)
    (applied : text.applyAll batch = .ok result) :
    ∃ final,
      batch.foldlM (absorb source) window = .ok final ∧ final.Yields source result := by
  induction batch generalizing window text with
  | nil =>
      cases applied
      exact ⟨window, rfl, yields⟩
  | cons edit rest inductionHypothesis =>
      obtain ⟨next, editApplied, restApplied⟩ :=
        Text.applyAll_cons_eq_ok_iff.mp applied
      obtain ⟨later, absorbed, laterYields⟩ := exists_absorb_of_yields yields editApplied
      obtain ⟨final, run, finalYields⟩ := inductionHypothesis laterYields restApplied
      refine ⟨final, ?_, finalYields⟩
      rw [List.foldlM_cons, bind_eq_ok_iff]
      exact ⟨later, absorbed, run⟩

/-- A window that is not negative is made into an edit, which takes nothing from the source. -/
theorem edit_eq_ok_iff
    {source : Text α}
    {window : Window α}
    {merged : Edit α} :
    window.edit source = .ok merged ↔
      0 ≤ window.length ∧ merged = ⟨window.offset, window.length.toNat, window.text⟩ := by
  unfold edit
  split
  · next extent =>
      simp [extent, eq_comm]
  · next negative =>
      simp [negative]

/-- A window that yields the text is, as an edit, one that leads to it. -/
theorem exists_edit_of_yields
    {source text : Text α}
    {window : Window α}
    (yields : window.Yields source text) :
    ∃ merged, window.edit source = .ok merged ∧ source.apply merged = .ok text := by
  obtain ⟨before, removed, behind, rfl, rfl, offset, length⟩ := yields
  refine ⟨⟨window.offset, window.length.toNat, window.text⟩, ?_, ?_⟩
  · exact edit_eq_ok_iff.mpr ⟨by omega, rfl⟩
  · apply Text.apply_append
    · exact offset
    · simp [length]

theorem hull_of_edit
    {source : Text α}
    {window : Window α}
    {merged : Edit α}
    (finished : window.edit source = .ok merged) :
    Hull.ofEdit merged = window.hull := by
  obtain ⟨extent, rfl⟩ := edit_eq_ok_iff.mp finished
  simp only [Hull.ofEdit, hull, growth, Edit.growth, Edit.stop, Hull.mk.injEq, true_and]
  omega

end Window

/-- A forward merge begins with the window of the first edit. -/
theorem mergeForward_cons_eq_ok_iff
    {source : Text α}
    {first : Edit α}
    {rest : List (Edit α)}
    {answer : Option (Edit α)} :
    mergeForward source (first :: rest) = .ok answer ↔
      ∃ final merged,
        rest.foldlM (Window.absorb source) (.ofEdit first) = .ok final ∧
          final.edit source = .ok merged ∧
          answer = some merged := by
  unfold mergeForward
  rw [bind_eq_ok_iff]
  constructor
  · rintro ⟨final, run, edited⟩
    obtain ⟨merged, finished, made⟩ := bind_eq_ok_iff.mp edited
    cases made
    exact ⟨final, merged, run, finished, rfl⟩
  · rintro ⟨final, merged, run, finished, rfl⟩
    exact ⟨final, run, bind_eq_ok_iff.mpr ⟨merged, finished, rfl⟩⟩

/-- Whatever the source, an edit that a forward merge returns has the hull of the batch. -/
theorem ofBatch_of_mergeForward
    {source : Text α}
    {batch : List (Edit α)}
    {merged : Edit α}
    (returned : mergeForward source batch = .ok (some merged)) :
    Hull.ofBatch batch = some (.ofEdit merged) := by
  cases batch with
  | nil =>
      cases returned
  | cons first rest =>
      obtain ⟨final, merged, run, finished, same⟩ :=
        mergeForward_cons_eq_ok_iff.mp returned
      cases same
      rw [Window.hull_of_edit finished]
      have covers : Hull.ofBatch [first] = some (Window.ofEdit first).hull := by
        simp
      exact Window.ofBatch_of_foldlM_absorb covers run

/-- A batch that applies to the source merges into an edit that leads to the same text. -/
theorem exists_mergeForward_of_applyAll
    {source result : Text α}
    {batch : List (Edit α)}
    (nonempty : batch ≠ [])
    (applied : source.applyAll batch = .ok result) :
    ∃ merged,
      mergeForward source batch = .ok (some merged) ∧
        source.apply merged = .ok result := by
  cases batch with
  | nil =>
      exact (nonempty rfl).elim
  | cons first rest =>
      obtain ⟨text, firstApplied, restApplied⟩ :=
        Text.applyAll_cons_eq_ok_iff.mp applied
      obtain ⟨final, run, yields⟩ :=
        Window.exists_foldlM_absorb_of_yields (Window.yields_ofEdit firstApplied) restApplied
      obtain ⟨merged, finished, mergedApplied⟩ := Window.exists_edit_of_yields yields
      exact ⟨merged, mergeForward_cons_eq_ok_iff.mpr ⟨final, merged, run, finished, rfl⟩,
        mergedApplied⟩

end Splice
