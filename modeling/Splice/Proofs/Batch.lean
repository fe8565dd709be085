import Mathlib.Algebra.Ring.Int.Defs
import Splice.Edit

namespace Splice

/-!
# Batches and the text before them

The edits of a batch refer to different texts.  Less the growth of the edits before it,
the end of an edit is a place in the text before the whole batch, and a batch can be
applied exactly if none of these places lies beyond the end of that text.
-/

variable {α : Type}

namespace Batch

/-- By how much the edits of a batch together lengthen the text. -/
def growth (batch : List (Edit α)) : Int :=
  (batch.map Edit.growth).sum

/-- Where every edit of a batch ends in the text before the batch. -/
def originalStops (batch : List (Edit α)) : List Int :=
  batch.mapIdx fun index edit => edit.stop - growth (batch.take index)

@[simp]
theorem growth_nil : growth ([] : List (Edit α)) = 0 :=
  rfl

@[simp]
theorem growth_cons (edit : Edit α) (rest : List (Edit α)) :
    growth (edit :: rest) = edit.growth + growth rest := by
  simp [growth]

@[simp]
theorem growth_append (first second : List (Edit α)) :
    growth (first ++ second) = growth first + growth second := by
  simp [growth]

theorem growth_reverse (batch : List (Edit α)) : growth batch.reverse = growth batch := by
  simp [growth]

@[simp]
theorem originalStops_nil : originalStops ([] : List (Edit α)) = [] :=
  rfl

/-- Behind its first edit, a batch is one of the text that this edit leaves. -/
@[simp]
theorem originalStops_cons (edit : Edit α) (rest : List (Edit α)) :
    originalStops (edit :: rest) =
      (edit.stop : Int) :: (originalStops rest).map (· - edit.growth) := by
  simp only [originalStops, List.mapIdx_cons, List.take_zero, growth_nil, Int.sub_zero,
    List.take_succ_cons, growth_cons, List.cons.injEq, true_and]
  apply List.ext_getElem
  · simp
  · intro index inside _
    simp only [List.getElem_mapIdx, List.getElem_map]
    omega

end Batch

namespace Text

/-- An edit is applied exactly if it ends within the text. -/
theorem apply_eq_ok_iff
    {text next : Text α}
    {edit : Edit α} :
    text.apply edit = .ok next ↔
      edit.stop ≤ text.length ∧
        next = text.replaceRange edit.offset edit.length edit.text := by
  unfold apply
  split
  · next fits =>
      constructor
      · intro applied
        cases applied
        exact ⟨fits, rfl⟩
      · rintro ⟨_, rfl⟩
        rfl
  · next beyond =>
      constructor
      · intro applied
        cases applied
      · rintro ⟨fits, _⟩
        exact (beyond fits).elim

theorem length_of_apply
    {text next : Text α}
    {edit : Edit α}
    (applied : text.apply edit = .ok next) :
    (next.length : Int) = text.length + edit.growth := by
  obtain ⟨fits, rfl⟩ := apply_eq_ok_iff.mp applied
  unfold Edit.stop at fits
  simp only [replaceRange, Edit.growth, List.length_append, List.length_take,
    List.length_drop]
  omega

/-- An edit replaces a part of the text that lies where it asks for. -/
theorem apply_append
    (before removed behind : Text α)
    {edit : Edit α}
    (offset_eq : edit.offset = before.length)
    (length_eq : edit.length = removed.length) :
    apply (before ++ removed ++ behind) edit = .ok (before ++ edit.text ++ behind) := by
  rw [apply_eq_ok_iff, Edit.stop, offset_eq, length_eq]
  constructor
  · simp
  · simp [replaceRange, ← List.drop_drop]

/-- The text of an edit that is applied has a part that the edit replaces. -/
theorem exists_parts_of_apply
    {text next : Text α}
    {edit : Edit α}
    (applied : text.apply edit = .ok next) :
    ∃ before removed behind,
      text = before ++ removed ++ behind ∧
        next = before ++ edit.text ++ behind ∧
        edit.offset = before.length ∧
        edit.length = removed.length := by
  obtain ⟨fits, rfl⟩ := apply_eq_ok_iff.mp applied
  unfold Edit.stop at fits
  refine ⟨text.take edit.offset, (text.drop edit.offset).take edit.length,
    text.drop (edit.offset + edit.length), ?_, rfl, ?_, ?_⟩
  · rw [List.append_assoc, ← List.drop_drop, List.take_append_drop,
      List.take_append_drop]
  · rw [List.length_take]
    omega
  · rw [List.length_take, List.length_drop]
    omega

/-- The text of an edit that is applied stands between what it left in front and behind. -/
theorem text_eq_slice_of_apply
    {text next : Text α}
    {edit : Edit α}
    (applied : text.apply edit = .ok next) :
    edit.offset + (text.length - edit.stop) ≤ next.length ∧
      edit.text = next.slice edit.offset (next.length - (text.length - edit.stop)) := by
  obtain ⟨before, removed, behind, rfl, rfl, offset_eq, length_eq⟩ :=
    exists_parts_of_apply applied
  have remaining : (before ++ removed ++ behind).length - edit.stop = behind.length := by
    simp only [Edit.stop, List.length_append]
    omega
  have inserted :
      (before ++ edit.text ++ behind).length - behind.length - edit.offset =
        edit.text.length := by
    simp only [List.length_append]
    omega
  rw [remaining]
  constructor
  · simp only [offset_eq, List.length_append]
    omega
  · rw [slice, inserted, offset_eq, List.append_assoc, List.drop_left,
      List.take_left]

@[simp]
theorem applyAll_nil (text : Text α) :
    text.applyAll [] = .ok text :=
  rfl

theorem applyAll_cons_of_apply
    {text next : Text α}
    {edit : Edit α}
    (applied : text.apply edit = .ok next)
    (rest : List (Edit α)) :
    text.applyAll (edit :: rest) = next.applyAll rest := by
  simp only [applyAll, List.foldlM_cons, applied]
  rfl

/-- Behind an edit of a part in the middle, the rest applies to the text with the new part. -/
theorem applyAll_cons_append
    (before removed inserted behind : Text α)
    (rest : List (Edit α)) :
    applyAll (before ++ removed ++ behind)
        (⟨before.length, removed.length, inserted⟩ :: rest) =
      applyAll (before ++ inserted ++ behind) rest :=
  applyAll_cons_of_apply (apply_append before removed behind rfl rfl) rest

theorem applyAll_cons_eq_ok_iff
    {text result : Text α}
    {edit : Edit α}
    {rest : List (Edit α)} :
    text.applyAll (edit :: rest) = .ok result ↔
      ∃ next, text.apply edit = .ok next ∧ next.applyAll rest = .ok result := by
  rw [applyAll, List.foldlM_cons, bind_eq_ok_iff]
  rfl

/-- Two batches in turn are applied as one. -/
theorem applyAll_append_of_applyAll
    {text middle : Text α}
    {first : List (Edit α)}
    (applied : text.applyAll first = .ok middle)
    (second : List (Edit α)) :
    text.applyAll (first ++ second) = middle.applyAll second := by
  unfold applyAll at applied ⊢
  rw [List.foldlM_append, applied]
  rfl

theorem applyAll_append_eq_ok_iff
    {text result : Text α}
    {first second : List (Edit α)} :
    text.applyAll (first ++ second) = .ok result ↔
      ∃ middle, text.applyAll first = .ok middle ∧ middle.applyAll second = .ok result := by
  rw [applyAll, List.foldlM_append, bind_eq_ok_iff]
  rfl

/-- In a batch that is applied, every edit ends within the text that it applies to. -/
theorem exists_turn_of_applyAll
    {text result : Text α}
    {before behind : List (Edit α)}
    {edit : Edit α}
    (applied : text.applyAll (before ++ edit :: behind) = .ok result) :
    ∃ middle, text.applyAll before = .ok middle ∧ edit.stop ≤ middle.length := by
  obtain ⟨middle, beforeApplied, restApplied⟩ := applyAll_append_eq_ok_iff.mp applied
  obtain ⟨next, editApplied, _⟩ := applyAll_cons_eq_ok_iff.mp restApplied
  exact ⟨middle, beforeApplied, (apply_eq_ok_iff.mp editApplied).1⟩

/-- Batches in turn are applied as one, also where one of them is refused. -/
theorem applyAll_flatten (text : Text α) (batches : List (List (Edit α))) :
    text.applyAll batches.flatten = batches.foldlM applyAll text := by
  induction batches generalizing text with
  | nil =>
      rfl
  | cons batch rest inductionHypothesis =>
      rw [List.flatten_cons, applyAll, List.foldlM_append, List.foldlM_cons]
      exact bind_congr inductionHypothesis

/-- A batch is applied exactly if no edit ends beyond the text before the batch. -/
theorem exists_applyAll_iff
    {text : Text α}
    {batch : List (Edit α)} :
    (∃ result, text.applyAll batch = .ok result) ↔
      ∀ stop ∈ Batch.originalStops batch, stop ≤ text.length := by
  induction batch generalizing text with
  | nil =>
      simp
  | cons edit rest inductionHypothesis =>
      simp only [applyAll_cons_eq_ok_iff, Batch.originalStops_cons, List.mem_cons,
        List.mem_map, forall_eq_or_imp, forall_exists_index, and_imp,
        forall_apply_eq_imp_iff₂]
      constructor
      · rintro ⟨result, next, applied, restApplied⟩
        have grown := length_of_apply applied
        have fits := (apply_eq_ok_iff.mp applied).1
        have restFits := inductionHypothesis.mp ⟨result, restApplied⟩
        refine ⟨by exact_mod_cast fits, ?_⟩
        intro stop member
        have within := restFits stop member
        omega
      · rintro ⟨fits, restFits⟩
        have applied := apply_eq_ok_iff.mpr ⟨by exact_mod_cast fits, rfl⟩
        have grown := length_of_apply applied
        obtain ⟨result, restApplied⟩ :=
          inductionHypothesis.mpr fun stop member => by
            have within := restFits stop member
            rw [grown]
            omega
        exact ⟨result, _, applied, restApplied⟩

end Text

end Splice
