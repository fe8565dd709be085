import Splice.Proofs.Merge.Forward

namespace Splice

/-!
# What a merged text consists of

A forward merge makes up nothing.  The text of its window consists of code points of the
source, which it reads from the gaps, and of those that the edits bring with them.
-/

variable {α : Type}

theorem Text.subset_of_fetch
    {text piece : Text α}
    {offset length : Int}
    (fetched : text.fetch offset length = .ok piece) :
    piece ⊆ text := by
  obtain ⟨_, rfl⟩ := fetch_eq_ok_iff.mp fetched
  exact List.Subset.trans (List.take_subset _ _) (List.drop_subset _ _)

namespace Window

variable {source pool : Text α} {window : Window α}

/-- The window stays within a pool that holds the source and the text of the edit. -/
theorem subset_of_absorb
    {later : Window α}
    {edit : Edit α}
    (sourceIn : source ⊆ pool)
    (windowIn : window.text ⊆ pool)
    (editIn : edit.text ⊆ pool)
    (absorbed : window.absorb source edit = .ok later) :
    later.text ⊆ pool := by
  unfold absorb at absorbed
  cases place : window.placement edit with
  | after =>
      rw [place] at absorbed
      obtain ⟨gap, fetched, rfl⟩ := extendAfter_eq_ok_iff.mp absorbed
      have gapIn : gap ⊆ pool := List.Subset.trans (Text.subset_of_fetch fetched) sourceIn
      exact List.append_subset.mpr ⟨List.append_subset.mpr ⟨windowIn, gapIn⟩, editIn⟩
  | before =>
      rw [place] at absorbed
      obtain ⟨gap, fetched, rfl⟩ := extendBefore_eq_ok_iff.mp absorbed
      have gapIn : gap ⊆ pool := List.Subset.trans (Text.subset_of_fetch fetched) sourceIn
      exact List.append_subset.mpr ⟨List.append_subset.mpr ⟨editIn, gapIn⟩, windowIn⟩
  | overlap =>
      rw [place] at absorbed
      cases absorbed
      have frontIn (count : Nat) : window.text.take count ⊆ pool :=
        List.Subset.trans (List.take_subset count _) windowIn
      have backIn (count : Nat) : window.text.drop count ⊆ pool :=
        List.Subset.trans (List.drop_subset count _) windowIn
      exact List.append_subset.mpr ⟨List.append_subset.mpr ⟨frontIn _, editIn⟩, backIn _⟩

/-- Step by step the window stays within the pool. -/
theorem subset_of_foldlM_absorb
    {final : Window α}
    {rest : List (Edit α)}
    (sourceIn : source ⊆ pool)
    (windowIn : window.text ⊆ pool)
    (restIn : ∀ edit ∈ rest, edit.text ⊆ pool)
    (run : rest.foldlM (absorb source) window = .ok final) :
    final.text ⊆ pool := by
  induction rest generalizing window with
  | nil =>
      cases run
      exact windowIn
  | cons edit rest inductionHypothesis =>
      rw [List.foldlM_cons, bind_eq_ok_iff] at run
      obtain ⟨later, absorbed, restRun⟩ := run
      obtain ⟨editIn, laterIn⟩ := List.forall_mem_cons.mp restIn
      exact inductionHypothesis (subset_of_absorb sourceIn windowIn editIn absorbed) laterIn restRun

end Window

/-- Every code point of a merged text is one of the source or of the text of an edit. -/
theorem text_subset_of_mergeForward
    {source : Text α}
    {batch : List (Edit α)}
    {merged : Edit α}
    (returned : mergeForward source batch = .ok (some merged)) :
    merged.text ⊆ source ++ batch.flatMap Edit.text := by
  have editIn : ∀ edit ∈ batch, edit.text ⊆ source ++ batch.flatMap Edit.text := by
    intro edit member c isOfEdit
    exact List.mem_append_right source (List.mem_flatMap_of_mem member isOfEdit)
  cases batch with
  | nil =>
      cases returned
  | cons first rest =>
      obtain ⟨final, edit, run, finished, isEdit⟩ := mergeForward_cons_eq_ok_iff.mp returned
      obtain rfl : merged = edit := Option.some.inj isEdit
      obtain ⟨firstIn, restIn⟩ := List.forall_mem_cons.mp editIn
      obtain ⟨_, rfl⟩ := Window.edit_eq_ok_iff.mp finished
      exact Window.subset_of_foldlM_absorb (List.subset_append_left _ _) firstIn restIn run

end Splice
