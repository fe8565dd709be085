import Splice.Proofs.Merge.Agreement
import Splice.Proofs.Merge.Refusals

namespace Splice

/-!
# The gaps that a forward merge needs

A forward merge looks at its source only where an edit lies beside all edits before it, and it
is refused only if the gap in between reaches beyond the source.  Whether it is refused can be
told from the hulls of the edits alone: what the edits themselves replace is never compared
with the source, however far beyond its end they reach.
-/

variable {α : Type}

namespace Hull

variable {hull : Hull} {edit : Edit α} {total : Nat}

/--
If there is a gap between earlier edits and the next one, on either side of them, a text of
`total` code points holds it.
-/
def GapWithin
    (hull : Hull)
    (edit : Edit α)
    (total : Nat) : Prop :=
  (hull.stop + hull.growth < edit.offset → edit.offset - hull.growth ≤ total) ∧
    (edit.stop < hull.start → hull.start ≤ total)

instance (hull : Hull) (edit : Edit α) (total : Nat) :
    Decidable (hull.GapWithin edit total) :=
  inferInstanceAs (Decidable (_ ∧ _))

/-- The text holds all gaps that the remaining edits leave, behind edits with the given hull. -/
def GapsWithin (total : Nat) : Hull → List (Edit α) → Prop
  | _, [] => True
  | hull, edit :: rest =>
      hull.GapWithin edit total ∧ (hull.andThen (.ofEdit edit)).GapsWithin total rest

instance decidableGapsWithin (total : Nat) (hull : Hull) (batch : List (Edit α)) :
    Decidable (hull.GapsWithin total batch) :=
  match batch with
  | [] => inferInstanceAs (Decidable True)
  | edit :: rest =>
      have := decidableGapsWithin total (hull.andThen (.ofEdit edit)) rest
      inferInstanceAs (Decidable (_ ∧ _))

end Hull

/-- Between the edits of a batch there are only gaps that a text of `total` code points holds. -/
def Batch.GapsWithin (total : Nat) : List (Edit α) → Prop
  | [] => True
  | first :: rest => (Hull.ofEdit first).GapsWithin total rest

instance (total : Nat) (batch : List (Edit α)) :
    Decidable (Batch.GapsWithin total batch) :=
  match batch with
  | [] => inferInstanceAs (Decidable True)
  | first :: rest => inferInstanceAs (Decidable ((Hull.ofEdit first).GapsWithin total rest))

/-- A text answers exactly the ranges that fit it. -/
theorem Text.exists_fetch_iff
    {text : Text α}
    {offset length : Int} :
    (∃ piece, text.fetch offset length = .ok piece) ↔ Fits offset length text.length := by
  simp only [fetch_eq_ok_iff, exists_and_left, exists_eq, and_true]

namespace Window

variable {source : Text α} {window : Window α} {edit : Edit α}

/-- A window reaches an edit behind it exactly if the source holds the gap. -/
theorem exists_extendAfter_iff
    (extent : 0 ≤ window.length)
    (place : window.placement edit = .after) :
    (∃ later, window.extendAfter source edit = .ok later) ↔
      window.hull.GapWithin edit source.length := by
  have beyond := Placement.ofRanges_eq_after_iff.mp place
  simp only [extendAfter_eq_ok_iff]
  rw [exists_comm]
  simp only [exists_and_left, exists_eq, and_true]
  rw [Text.exists_fetch_iff, Fits, Hull.GapWithin]
  simp only [hull, growth, Edit.stop] at beyond ⊢
  omega

theorem exists_extendBefore_iff
    (place : window.placement edit = .before) :
    (∃ later, window.extendBefore source edit = .ok later) ↔
      window.hull.GapWithin edit source.length := by
  have ahead := Placement.ofRanges_eq_before_iff.mp place
  simp only [extendBefore_eq_ok_iff]
  rw [exists_comm]
  simp only [exists_and_left, exists_eq, and_true]
  rw [Text.exists_fetch_iff, Fits, Hull.GapWithin]
  simp only [hull, growth, Edit.stop] at ahead ⊢
  omega

/-- An edit on a window leaves no gap, and otherwise the source has to hold it. -/
theorem exists_absorb_iff
    (extent : 0 ≤ window.length) :
    (∃ later, window.absorb source edit = .ok later) ↔
      window.hull.GapWithin edit source.length := by
  unfold absorb
  cases place : window.placement edit with
  | after =>
      exact exists_extendAfter_iff extent place
  | before =>
      exact exists_extendBefore_iff place
  | overlap =>
      have touches := Placement.ofRanges_eq_overlap_iff.mp place
      have noGap : window.hull.GapWithin edit source.length := by
        simp only [Hull.GapWithin, hull, growth]
        omega
      exact iff_of_true ⟨_, rfl⟩ noGap

/-- A run takes all edits in exactly if the source holds all gaps between them. -/
theorem exists_foldlM_absorb_iff
    (extent : 0 ≤ window.length)
    (rest : List (Edit α)) :
    (∃ final, rest.foldlM (absorb source) window = .ok final) ↔
      window.hull.GapsWithin source.length rest := by
  induction rest generalizing window with
  | nil =>
      exact iff_of_true ⟨window, rfl⟩ trivial
  | cons edit rest inductionHypothesis =>
      rw [Hull.GapsWithin, ← exists_absorb_iff extent]
      simp only [List.foldlM_cons, bind_eq_ok_iff]
      constructor
      · rintro ⟨final, later, absorbed, restRun⟩
        have laterExtent := length_nonneg_of_absorb extent absorbed
        refine ⟨⟨later, absorbed⟩, ?_⟩
        rw [← hull_absorb absorbed]
        exact (inductionHypothesis laterExtent).mp ⟨final, restRun⟩
      · rintro ⟨⟨later, absorbed⟩, gaps⟩
        have laterExtent := length_nonneg_of_absorb extent absorbed
        rw [← hull_absorb absorbed] at gaps
        obtain ⟨final, restRun⟩ := (inductionHypothesis laterExtent).mpr gaps
        exact ⟨final, later, absorbed, restRun⟩

end Window

/-- A forward merge is refused exactly if its source lacks one of the gaps. -/
theorem exists_mergeForward_error_iff
    {source : Text α}
    {batch : List (Edit α)} :
    (∃ refusal, mergeForward source batch = .error refusal) ↔
      ¬Batch.GapsWithin source.length batch := by
  cases batch with
  | nil =>
      refine iff_of_false ?_ (not_not_intro trivial)
      rintro ⟨refusal, refused⟩
      cases refused
  | cons first rest =>
      have extent : 0 ≤ (Window.ofEdit first).length := Int.natCast_nonneg _
      rw [Batch.GapsWithin, ← Window.hull_ofEdit, ← Window.exists_foldlM_absorb_iff extent]
      rcases mergeForward_cons_cases source first rest with
        ⟨final, merged, run, returned, _⟩ | ⟨error, run, refused, _⟩
      · refine iff_of_false ?_ (not_not_intro ⟨final, run⟩)
        rintro ⟨refusal, refused⟩
        cases returned.symm.trans refused
      · refine iff_of_true ⟨error, refused⟩ ?_
        rintro ⟨final, otherRun⟩
        cases run.symm.trans otherRun

/-- A batch that does not fit its source is merged into an edit that does not fit it either. -/
theorem exists_misfit_of_gapsWithin
    {source : Text α}
    {batch : List (Edit α)}
    {error : RangeError}
    (refused : source.applyAll batch = .error error)
    (gaps : Batch.GapsWithin source.length batch) :
    ∃ merged,
      mergeForward source batch = .ok (some merged) ∧ source.length < merged.stop := by
  have nonempty : batch ≠ [] := by
    rintro rfl
    cases refused
  cases returned : mergeForward source batch with
  | error refusal =>
      exact (exists_mergeForward_error_iff.mp ⟨refusal, returned⟩ gaps).elim
  | ok answer =>
      cases answer with
      | none =>
          exact (mergeForward_ne_none nonempty returned).elim
      | some merged =>
          refine ⟨merged, rfl, ?_⟩
          by_contra fits
          have applied := Text.apply_eq_ok_iff.mpr ⟨Nat.le_of_not_lt fits, rfl⟩
          have accepted := applyAll_eq_ok_of_mergeForward nonempty returned applied
          cases refused.symm.trans accepted

end Splice
