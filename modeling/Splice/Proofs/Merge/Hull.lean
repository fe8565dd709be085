import Splice.Proofs.Batch

namespace Splice

/-!
# The hull of a batch

The hull of a batch is the smallest range of the text before it that covers every edit,
together with the growth of the whole batch.  Hulls are joined in the order of the edits,
and since joining is associative it does not matter from which end a batch is folded.
-/

variable {α : Type}

/-- A range of the text before some edits that covers them all, and their growth. -/
structure Hull where
  start : Nat
  stop : Int
  growth : Int
  deriving Repr, DecidableEq

namespace Hull

/-- The hull of a single edit. -/
def ofEdit (edit : Edit α) : Hull where
  start := edit.offset
  stop := edit.stop
  growth := edit.growth

/-- The hull of edits and of later ones, which refer to the text behind the former. -/
def andThen (earlier later : Hull) : Hull where
  start := min earlier.start later.start
  stop := max earlier.stop (later.stop - earlier.growth)
  growth := earlier.growth + later.growth

/-- Joining hulls is associative: the stops of the last are moved back twice. -/
theorem andThen_assoc (first second third : Hull) :
    (first.andThen second).andThen third = first.andThen (second.andThen third) := by
  simp only [andThen, mk.injEq]
  omega

instance : Std.Associative andThen :=
  ⟨andThen_assoc⟩

/-- The hull of a batch; an empty batch has none. -/
def ofBatch : List (Edit α) → Option Hull
  | [] => none
  | edit :: rest => Option.merge andThen (some (ofEdit edit)) (ofBatch rest)

@[simp]
theorem ofBatch_nil : ofBatch ([] : List (Edit α)) = none :=
  rfl

theorem ofBatch_cons (edit : Edit α) (rest : List (Edit α)) :
    ofBatch (edit :: rest) =
      Option.merge andThen (some (ofEdit edit)) (ofBatch rest) :=
  rfl

@[simp]
theorem ofBatch_singleton (edit : Edit α) : ofBatch [edit] = some (ofEdit edit) :=
  rfl

theorem ofBatch_append (first second : List (Edit α)) :
    ofBatch (first ++ second) = Option.merge andThen (ofBatch first) (ofBatch second) := by
  induction first with
  | nil =>
      simp
  | cons edit rest inductionHypothesis =>
      rw [List.cons_append, ofBatch_cons, ofBatch_cons, inductionHypothesis]
      exact (Option.associative_merge andThen).assoc _ _ _ |>.symm

theorem ofBatch_eq_none_iff {batch : List (Edit α)} :
    ofBatch batch = none ↔ batch = [] := by
  cases batch with
  | nil =>
      simp
  | cons edit rest =>
      simp [ofBatch_cons, Option.merge_eq_none_iff]

/-- A hull does not stop before it starts. -/
theorem start_le_stop_of_ofBatch
    {batch : List (Edit α)}
    {hull : Hull}
    (covers : ofBatch batch = some hull) :
    (hull.start : Int) ≤ hull.stop := by
  cases batch with
  | nil =>
      cases covers
  | cons edit rest =>
      rw [ofBatch_cons] at covers
      cases restHull : ofBatch rest with
      | none =>
          rw [restHull] at covers
          cases covers
          simp only [ofEdit, Edit.stop]
          omega
      | some later =>
          rw [restHull] at covers
          cases covers
          simp only [andThen, ofEdit, Edit.stop]
          omega

/-- Nor does it in the text behind the edits, where it stops later by their growth. -/
theorem start_le_stop_add_growth_of_ofBatch
    {batch : List (Edit α)}
    {hull : Hull}
    (covers : ofBatch batch = some hull) :
    (hull.start : Int) ≤ hull.stop + hull.growth := by
  induction batch generalizing hull with
  | nil =>
      cases covers
  | cons edit rest inductionHypothesis =>
      rw [ofBatch_cons] at covers
      cases restHull : ofBatch rest with
      | none =>
          rw [restHull] at covers
          cases covers
          simp only [ofEdit, Edit.stop, Edit.growth]
          omega
      | some later =>
          rw [restHull] at covers
          cases covers
          have ordered := inductionHypothesis restHull
          simp only [andThen]
          omega

/-- The hull starts where the leftmost edit starts. -/
theorem map_start_ofBatch (batch : List (Edit α)) :
    (ofBatch batch).map start = (batch.map Edit.offset).min? := by
  induction batch with
  | nil =>
      rfl
  | cons edit rest inductionHypothesis =>
      rw [ofBatch_cons, List.map_cons, List.min?_cons, ← inductionHypothesis]
      cases ofBatch rest <;> rfl

/-- The greatest of some numbers that are all moved is the greatest one, moved. -/
private theorem max?_map_sub (values : List Int) (shift : Int) :
    (values.map (· - shift)).max? = values.max?.map (· - shift) := by
  induction values with
  | nil =>
      rfl
  | cons value rest inductionHypothesis =>
      rw [List.map_cons, List.max?_cons, List.max?_cons, inductionHypothesis]
      cases rest.max? with
      | none =>
          rfl
      | some greatest =>
          simp only [Option.map_some, Option.elim_some, Option.some.injEq]
          omega

/-- The hull stops where the edit that reaches furthest stops in the text before the batch. -/
theorem map_stop_ofBatch (batch : List (Edit α)) :
    (ofBatch batch).map stop = (Batch.originalStops batch).max? := by
  induction batch with
  | nil =>
      rfl
  | cons edit rest inductionHypothesis =>
      rw [ofBatch_cons, Batch.originalStops_cons, List.max?_cons, max?_map_sub,
        ← inductionHypothesis]
      cases ofBatch rest <;> rfl

theorem growth_of_ofBatch
    {batch : List (Edit α)}
    {hull : Hull}
    (covers : ofBatch batch = some hull) :
    hull.growth = Batch.growth batch := by
  induction batch generalizing hull with
  | nil =>
      cases covers
  | cons edit rest inductionHypothesis =>
      rw [ofBatch_cons] at covers
      cases restHull : ofBatch rest with
      | none =>
          rw [restHull] at covers
          cases covers
          simp [ofBatch_eq_none_iff.mp restHull, ofEdit]
      | some later =>
          rw [restHull] at covers
          cases covers
          simp [andThen, ofEdit, inductionHypothesis restHull]

/-- The hull is told by the edits alone: by the least start, the greatest stop and the growth. -/
theorem extent_of_ofBatch
    {batch : List (Edit α)}
    {hull : Hull}
    (covers : ofBatch batch = some hull) :
    (batch.map Edit.offset).min? = some hull.start ∧
      (Batch.originalStops batch).max? = some hull.stop ∧
      hull.growth = Batch.growth batch := by
  refine ⟨?_, ?_, growth_of_ofBatch covers⟩
  · rw [← map_start_ofBatch, covers, Option.map_some]
  · rw [← map_stop_ofBatch, covers, Option.map_some]

end Hull

/-- A batch is applied exactly if its hull lies within the text. -/
theorem Text.exists_applyAll_iff_of_ofBatch
    {text : Text α}
    {batch : List (Edit α)}
    {hull : Hull}
    (covers : Hull.ofBatch batch = some hull) :
    (∃ result, text.applyAll batch = .ok result) ↔ hull.stop ≤ text.length := by
  have greatest := Hull.map_stop_ofBatch batch
  rw [covers, Option.map_some, eq_comm, List.max?_eq_some_iff] at greatest
  rw [Text.exists_applyAll_iff]
  constructor
  · intro fits
    exact fits hull.stop greatest.1
  · intro fits stop member
    exact Int.le_trans (greatest.2 stop member) fits

end Splice
