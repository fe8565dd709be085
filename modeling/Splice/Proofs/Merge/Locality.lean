import Splice.Proofs.Merge.Agreement
import Splice.Proofs.Merge.Refusals

namespace Splice

/-!
# What a forward merge reads

A forward merge reads nothing of its source but the gaps between its window and the edits
beside it, and each gap lies within the window that takes it in.  Windows only ever grow, so
that all the gaps lie within the range that the merged edit replaces.  A text that is the same
in this range therefore has the same merged edit, however different it is elsewhere, and as the
range lies within that text, the batch applies to it.
-/

variable {α : Type}

namespace Text

/-- Both texts hold the range `[offset, stop)`, and they are the same in it. -/
structure SameWithin
    (source other : Text α)
    (offset stop : Nat) : Prop where
  stop_le_source : stop ≤ source.length
  stop_le_other : stop ≤ other.length
  slice_eq : source.slice offset stop = other.slice offset stop

/-- A piece that lies within a slice of a text is found in the slice. -/
theorem take_drop_slice
    (text : Text α)
    {offset stop start length : Nat}
    (reached : offset ≤ start)
    (within : start + length ≤ stop) :
    ((text.slice offset stop).drop (start - offset)).take length =
      (text.drop start).take length := by
  have fits : length ≤ stop - offset - (start - offset) := by omega
  rw [slice, List.drop_take, List.drop_drop, Nat.add_sub_cancel' reached, List.take_take,
    Nat.min_eq_left fits]

/-- Within the range in which two texts are the same, both give the same answers. -/
theorem SameWithin.fetch_eq_ok
    {source other piece : Text α}
    {offset stop : Nat}
    {start length : Int}
    (same : source.SameWithin other offset stop)
    (reached : offset ≤ start)
    (within : start + length ≤ stop)
    (fetched : source.fetch start length = .ok piece) :
    other.fetch start length = .ok piece := by
  obtain ⟨⟨start_nonneg, length_nonneg, _⟩, rfl⟩ := fetch_eq_ok_iff.mp fetched
  have otherHolds := same.stop_le_other
  have reached' : offset ≤ start.toNat := by omega
  have within' : start.toNat + length.toNat ≤ stop := by omega
  rw [fetch_eq_ok_iff]
  refine ⟨⟨start_nonneg, length_nonneg, by omega⟩, ?_⟩
  calc
    (source.drop start.toNat).take length.toNat =
        ((source.slice offset stop).drop (start.toNat - offset)).take length.toNat :=
      (take_drop_slice source reached' within').symm
    _ = ((other.slice offset stop).drop (start.toNat - offset)).take length.toNat := by
      rw [same.slice_eq]
    _ = (other.drop start.toNat).take length.toNat :=
      take_drop_slice other reached' within'

end Text

namespace Hull

/-- The hull lies within the range `[offset, stop)` of the text before the edits. -/
structure Within
    (hull : Hull)
    (offset stop : Nat) : Prop where
  offset_le : offset ≤ hull.start
  le_stop : hull.stop ≤ stop

/-- A hull that is joined to later ones lies within any range that they all lie within. -/
theorem Within.of_andThen
    {earlier later : Hull}
    {offset stop : Nat}
    (within : (earlier.andThen later).Within offset stop) :
    earlier.Within offset stop := by
  have starts := within.offset_le
  have stops := within.le_stop
  simp only [andThen] at starts stops
  exact ⟨by omega, by omega⟩

end Hull

namespace Window

variable {source other : Text α} {window later final : Window α} {edit : Edit α} {offset stop : Nat}

/-- The gap behind a window lies within the window that takes the edit in. -/
theorem extendAfter_of_sameWithin
    (same : source.SameWithin other offset stop)
    (extent : 0 ≤ window.length)
    (within : later.hull.Within offset stop)
    (extended : window.extendAfter source edit = .ok later) :
    window.extendAfter other edit = .ok later := by
  obtain ⟨gap, fetched, rfl⟩ := extendAfter_eq_ok_iff.mp extended
  have starts := within.offset_le
  have stops := within.le_stop
  simp only [hull] at starts stops
  refine extendAfter_eq_ok_iff.mpr ⟨gap, same.fetch_eq_ok ?_ ?_ fetched, rfl⟩
  · omega
  · omega

/-- So does the gap in front of a window. -/
theorem extendBefore_of_sameWithin
    (same : source.SameWithin other offset stop)
    (extent : 0 ≤ window.length)
    (within : later.hull.Within offset stop)
    (extended : window.extendBefore source edit = .ok later) :
    window.extendBefore other edit = .ok later := by
  obtain ⟨gap, fetched, rfl⟩ := extendBefore_eq_ok_iff.mp extended
  have starts := within.offset_le
  have stops := within.le_stop
  simp only [hull] at starts stops
  refine extendBefore_eq_ok_iff.mpr ⟨gap, same.fetch_eq_ok ?_ ?_ fetched, rfl⟩
  · simp only [Edit.stop]
    omega
  · omega

/-- A window that lies where two sources are the same comes about alike from both. -/
theorem absorb_of_sameWithin
    (same : source.SameWithin other offset stop)
    (extent : 0 ≤ window.length)
    (within : later.hull.Within offset stop)
    (absorbed : window.absorb source edit = .ok later) :
    window.absorb other edit = .ok later := by
  unfold absorb at absorbed ⊢
  cases place : window.placement edit with
  | after =>
      rw [place] at absorbed
      exact extendAfter_of_sameWithin same extent within absorbed
  | before =>
      rw [place] at absorbed
      exact extendBefore_of_sameWithin same extent within absorbed
  | overlap =>
      rw [place] at absorbed
      exact absorbed

/-- If the last window of a run lies there, so do all windows before it. -/
theorem foldlM_absorb_of_sameWithin
    {rest : List (Edit α)}
    (same : source.SameWithin other offset stop)
    (extent : 0 ≤ window.length)
    (within : final.hull.Within offset stop)
    (run : rest.foldlM (absorb source) window = .ok final) :
    rest.foldlM (absorb other) window = .ok final ∧ window.hull.Within offset stop := by
  induction rest generalizing window with
  | nil =>
      cases run
      exact ⟨rfl, within⟩
  | cons edit rest inductionHypothesis =>
      rw [List.foldlM_cons, bind_eq_ok_iff] at run
      obtain ⟨later, absorbed, restRun⟩ := run
      obtain ⟨otherRun, laterWithin⟩ :=
        inductionHypothesis (length_nonneg_of_absorb extent absorbed) restRun
      have otherAbsorbed := absorb_of_sameWithin same extent laterWithin absorbed
      rw [hull_absorb absorbed] at laterWithin
      rw [List.foldlM_cons, bind_eq_ok_iff]
      exact ⟨⟨later, otherAbsorbed, otherRun⟩, laterWithin.of_andThen⟩

end Window

/--
A forward merge depends on nothing outside the range that its edit replaces: a text that has
this range, with the same code points in it, has the same merged edit, and the batch applies
to that text with the effect of the edit.
-/
theorem mergeForward_reads_only_its_window
    {source other : Text α}
    {batch : List (Edit α)}
    {merged : Edit α}
    (returned : mergeForward source batch = .ok (some merged))
    (same : source.SameWithin other merged.offset merged.stop) :
    mergeForward other batch = .ok (some merged) ∧
      ∃ result,
        other.applyAll batch = .ok result ∧ other.apply merged = .ok result := by
  cases batch with
  | nil =>
      cases returned
  | cons first rest =>
      obtain ⟨final, merged, run, finished, isMerged⟩ :=
        mergeForward_cons_eq_ok_iff.mp returned
      cases isMerged
      have within : final.hull.Within merged.offset merged.stop := by
        rw [← Window.hull_of_edit finished]
        exact ⟨Nat.le_refl _, Int.le_refl _⟩
      obtain ⟨otherRun, _⟩ :=
        Window.foldlM_absorb_of_sameWithin same (Int.natCast_nonneg _) within run
      have otherFinished : final.edit other = .ok merged :=
        Window.edit_eq_ok_iff.mpr (Window.edit_eq_ok_iff.mp finished)
      have otherReturned : mergeForward other (first :: rest) = .ok (some merged) :=
        mergeForward_cons_eq_ok_iff.mpr
          ⟨final, merged, otherRun, otherFinished, rfl⟩
      have applied := Text.apply_eq_ok_iff.mpr ⟨same.stop_le_other, rfl⟩
      exact ⟨otherReturned, _,
        applyAll_eq_ok_of_mergeForward (List.cons_ne_nil _ _) otherReturned applied, applied⟩

/-- Neither what lies around the window nor the length of the text makes a difference. -/
theorem mergeForward_reads_only_its_window_gap :
    mergeForward ['p', 'a', 'b', 'c', 'd', 'q'] [⟨4, 1, []⟩, ⟨1, 1, ['X', 'Y']⟩] =
        .ok (some ⟨1, 4, ['X', 'Y', 'b', 'c']⟩) ∧
      Text.SameWithin ['p', 'a', 'b', 'c', 'd', 'q'] ['z', 'a', 'b', 'c', 'd'] 1 5 ∧
      mergeForward ['z', 'a', 'b', 'c', 'd'] [⟨4, 1, []⟩, ⟨1, 1, ['X', 'Y']⟩] =
        .ok (some ⟨1, 4, ['X', 'Y', 'b', 'c']⟩) ∧
      ∃ result,
        Text.applyAll ['z', 'a', 'b', 'c', 'd'] [⟨4, 1, []⟩, ⟨1, 1, ['X', 'Y']⟩] =
            .ok result ∧
          Text.apply ['z', 'a', 'b', 'c', 'd'] ⟨1, 4, ['X', 'Y', 'b', 'c']⟩ = .ok result := by
  have returned :
      mergeForward ['p', 'a', 'b', 'c', 'd', 'q'] [⟨4, 1, []⟩, ⟨1, 1, ['X', 'Y']⟩] =
        .ok (some ⟨1, 4, ['X', 'Y', 'b', 'c']⟩) :=
    rfl
  have same : Text.SameWithin ['p', 'a', 'b', 'c', 'd', 'q'] ['z', 'a', 'b', 'c', 'd'] 1 5 :=
    ⟨by decide, by decide, rfl⟩
  exact ⟨returned, same, mergeForward_reads_only_its_window returned same⟩

end Splice
