import Mathlib.Data.List.Chain
import Mathlib.Data.List.TakeWhile
import Splice.Proofs.Script.Sides
import Splice.Proofs.Script.Unchanged

namespace Splice.Script

/-!
# The runs of a script

Between its kept pieces a script has runs of deletions and insertions.  The walk from run to run
that is used here lists just the maximal ones, and where no piece is empty, some of the source is
kept between each of them and the next.
-/

/-- Pieces of a script in a row, with those in front of them and those behind them. -/
structure Run where
  front : Script
  pieces : Script
  behind : Script

namespace Run

/-- The pieces are a run of a script: none of them is kept, and on both sides the next one is. -/
structure IsMaximal (run : Run) (script : Script) : Prop where
  whole : script = run.front ++ run.pieces ++ run.behind
  notEmpty : run.pieces ≠ []
  noneKept : ∀ piece ∈ run.pieces, piece.isKept = false
  keptInFront : ∀ piece ∈ run.front.getLast?, piece.isKept = true
  keptBehind : ∀ piece ∈ run.behind.head?, piece.isKept = true

/-- The run with more pieces in front of it. -/
def prepend (more : Script) (run : Run) : Run :=
  { run with front := more ++ run.front }

/--
The change that a run stands for: it has no kept piece, so that its source is what it deletes and
its target is what it inserts.
-/
def edit (run : Run) : Edit :=
  ⟨run.front.source.length, run.pieces.source.length, run.pieces.target⟩

end Run

/-- The runs of a script from left to right. -/
def runs : Script → List Run
  | [] => []
  | piece :: rest =>
      if piece.isKept then
        (runs rest).map (Run.prepend [piece])
      else
        let others := rest.takeWhile fun other => !other.isKept
        let behind := rest.dropWhile fun other => !other.isKept
        ⟨[], piece :: others, behind⟩ :: (runs behind).map (Run.prepend (piece :: others))
termination_by script => script.length
decreasing_by
  · simp
  · exact Nat.lt_succ_of_le (List.dropWhile_suffix _).length_le

section Recursion

variable {piece : Piece} {pieces behind rest : Script}

/-- Up to the next kept piece, pieces that are not kept are told from those behind them. -/
theorem takeWhile_and_dropWhile_of_noneKept
    (noneKept : ∀ piece ∈ pieces, piece.isKept = false)
    (keptBehind : ∀ piece ∈ behind.head?, piece.isKept = true) :
    (pieces ++ behind).takeWhile (fun piece => !piece.isKept) = pieces ∧
      (pieces ++ behind).dropWhile (fun piece => !piece.isKept) = behind := by
  have changed : ∀ piece ∈ pieces, (!piece.isKept) = true := by
    simpa using noneKept
  rw [List.takeWhile_append_of_pos changed, List.dropWhile_append_of_pos changed]
  cases behind with
  | nil =>
      simp
  | cons next rest =>
      simp [keptBehind next rfl]

theorem runs_cons_of_kept (kept : piece.isKept = true) :
    runs (piece :: rest) = (runs rest).map (Run.prepend [piece]) := by
  rw [runs, if_pos kept]

/-- Behind the pieces up to a kept one the runs go on. -/
theorem runs_append_of_noneKept
    (notEmpty : pieces ≠ [])
    (noneKept : ∀ piece ∈ pieces, piece.isKept = false)
    (keptBehind : ∀ piece ∈ behind.head?, piece.isKept = true) :
    runs (pieces ++ behind) =
      ⟨[], pieces, behind⟩ :: (runs behind).map (Run.prepend pieces) := by
  obtain ⟨piece, others, rfl⟩ := List.exists_cons_of_ne_nil notEmpty
  rw [List.forall_mem_cons] at noneKept
  obtain ⟨taken, dropped⟩ := takeWhile_and_dropWhile_of_noneKept noneKept.2 keptBehind
  rw [List.cons_append, runs, noneKept.1, if_neg Bool.false_ne_true, taken, dropped]

/-- A script is empty, or it begins with a kept piece or with a run. -/
@[elab_as_elim]
theorem inductionOnRuns
    {motive : Script → Prop}
    (script : Script)
    (nil : motive [])
    (kept :
      ∀ piece rest,
        piece.isKept = true →
          motive rest →
            motive (piece :: rest))
    (run :
      ∀ pieces behind : Script,
        pieces ≠ [] →
          (∀ piece ∈ pieces, piece.isKept = false) →
            (∀ piece ∈ behind.head?, piece.isKept = true) →
              motive behind →
                motive (pieces ++ behind)) :
    motive script := by
  induction script using runs.induct with
  | case1 =>
      exact nil
  | case2 piece rest isKept inductionHypothesis =>
      exact kept piece rest isKept inductionHypothesis
  | case3 piece rest notKept behind inductionHypothesis =>
      have whole :
          piece :: rest = (piece :: rest.takeWhile fun other => !other.isKept) ++ behind := by
        rw [List.cons_append, List.takeWhile_append_dropWhile]
      rw [whole]
      refine run _ behind (List.cons_ne_nil _ _) ?_ ?_ inductionHypothesis
      · rw [List.forall_mem_cons]
        refine ⟨by simpa using notKept, fun other member => ?_⟩
        simpa using List.mem_takeWhile_imp member
      · intro next isNext
        have stops := List.head?_dropWhile_not (fun other : Piece => !other.isKept) rest
        rw [show rest.dropWhile _ = behind from rfl, isNext] at stops
        simpa using stops

end Recursion

namespace Run

variable {run inner : Run} {piece : Piece} {pieces behind rest more : Script}

theorem prepend_prepend (first second : Script) (run : Run) :
    (run.prepend second).prepend first = run.prepend (first ++ second) := by
  simp [prepend]

/-- Pieces may be put in front of a run that has some already, or if the last of them is kept. -/
theorem IsMaximal.prepend
    (isMaximal : inner.IsMaximal rest)
    (keptInFront : inner.front = [] → ∀ piece ∈ more.getLast?, piece.isKept = true) :
    (inner.prepend more).IsMaximal (more ++ rest) where
  whole := by simp [Run.prepend, isMaximal.whole]
  notEmpty := isMaximal.notEmpty
  noneKept := isMaximal.noneKept
  keptInFront := by
    intro piece isLast
    rw [Run.prepend, List.getLast?_append] at isLast
    cases last : inner.front.getLast? with
    | none =>
        rw [last, Option.none_or] at isLast
        exact keptInFront (List.getLast?_eq_none_iff.mp last) piece isLast
    | some other =>
        rw [last, Option.some_or] at isLast
        exact isMaximal.keptInFront piece (last.trans isLast)
  keptBehind := isMaximal.keptBehind

/-- What stands in front of a run may be left away up to a place in front of it. -/
theorem IsMaximal.of_prepend
    (isMaximal : (inner.prepend more).IsMaximal (more ++ rest)) :
    inner.IsMaximal rest where
  whole := by
    have whole := isMaximal.whole
    simp only [Run.prepend, List.append_assoc, List.append_cancel_left_eq] at whole
    simpa using whole
  notEmpty := isMaximal.notEmpty
  noneKept := isMaximal.noneKept
  keptInFront := by
    intro piece isLast
    refine isMaximal.keptInFront piece ?_
    rw [Run.prepend, List.getLast?_append, isLast, Option.some_or]
    rfl
  keptBehind := isMaximal.keptBehind

/-- No run stands at the start of a script that begins with a kept piece. -/
theorem IsMaximal.front_ne_nil
    {script : Script}
    (isMaximal : run.IsMaximal script)
    (kept : ∀ piece ∈ script.head?, piece.isKept = true) :
    run.front ≠ [] := by
  intro nothing
  obtain ⟨first, others, pieces⟩ := List.exists_cons_of_ne_nil isMaximal.notEmpty
  have isKept := kept first (by simp [isMaximal.whole, nothing, pieces])
  have notKept := isMaximal.noneKept first (by simp [pieces])
  cases isKept.symm.trans notKept

/-- The runs behind a kept piece are those of the rest. -/
theorem isMaximal_cons_iff (kept : piece.isKept = true) :
    run.IsMaximal (piece :: rest) ↔
      ∃ inner : Run, inner.IsMaximal rest ∧ inner.prepend [piece] = run := by
  constructor
  · intro isMaximal
    have someInFront := isMaximal.front_ne_nil (by simpa using kept)
    rcases run with ⟨front, pieces, behind⟩
    obtain ⟨first, front, rfl⟩ := List.exists_cons_of_ne_nil someInFront
    obtain ⟨rfl, _⟩ := List.cons.inj isMaximal.whole
    have prepended : (prepend [piece] ⟨front, pieces, behind⟩).IsMaximal ([piece] ++ rest) :=
      isMaximal
    exact ⟨⟨front, pieces, behind⟩, prepended.of_prepend, rfl⟩
  · rintro ⟨inner, isMaximal, rfl⟩
    exact isMaximal.prepend fun _ => by simpa using kept

/-- The runs of a script that begins with one are this one and those behind it. -/
theorem isMaximal_append_iff
    (notEmpty : pieces ≠ [])
    (noneKept : ∀ piece ∈ pieces, piece.isKept = false)
    (keptBehind : ∀ piece ∈ behind.head?, piece.isKept = true) :
    run.IsMaximal (pieces ++ behind) ↔
      run = ⟨[], pieces, behind⟩ ∨
        ∃ inner : Run, inner.IsMaximal behind ∧ inner.prepend pieces = run := by
  constructor
  · intro isMaximal
    have whole := isMaximal.whole
    rcases run with ⟨front, others, rest⟩
    by_cases nothing : front = []
    · -- Both runs reach from the start of the script to the first kept piece.
      subst nothing
      obtain ⟨taken, dropped⟩ := takeWhile_and_dropWhile_of_noneKept noneKept keptBehind
      obtain ⟨othersTaken, restDropped⟩ :=
        takeWhile_and_dropWhile_of_noneKept isMaximal.noneKept isMaximal.keptBehind
      rw [whole] at taken dropped
      cases taken.symm.trans othersTaken
      cases dropped.symm.trans restDropped
      exact Or.inl rfl
    · rw [List.append_assoc] at whole
      rcases List.append_eq_append_iff.mp whole with ⟨between, rfl, _⟩ | ⟨more, rfl, _⟩
      · exact Or.inr ⟨⟨between, others, rest⟩, .of_prepend isMaximal, rfl⟩
      · -- The last piece in front of a run is kept, so it is none of the first run.
        have isLast := List.getLast?_eq_some_getLast nothing
        have kept := isMaximal.keptInFront _ isLast
        have notKept := noneKept _ (List.mem_append_left more (List.getLast_mem nothing))
        cases kept.symm.trans notKept
  · rintro (rfl | ⟨inner, isMaximal, rfl⟩)
    · exact ⟨rfl, notEmpty, noneKept, by simp, keptBehind⟩
    · exact isMaximal.prepend fun nothing => (isMaximal.front_ne_nil keptBehind nothing).elim

end Run

/-- The list of the runs of a script holds just its runs. -/
theorem mem_runs_iff {script : Script} {run : Run} :
    run ∈ script.runs ↔ run.IsMaximal script := by
  induction script using inductionOnRuns generalizing run with
  | nil =>
      rw [runs]
      refine iff_of_false List.not_mem_nil fun isMaximal => isMaximal.notEmpty ?_
      have noPieces := List.append_eq_nil_iff.mp isMaximal.whole.symm
      exact (List.append_eq_nil_iff.mp noPieces.1).2
  | kept piece rest kept inductionHypothesis =>
      rw [runs_cons_of_kept kept, Run.isMaximal_cons_iff kept, List.mem_map]
      simp only [inductionHypothesis]
  | run pieces behind notEmpty noneKept keptBehind inductionHypothesis =>
      rw [runs_append_of_noneKept notEmpty noneKept keptBehind,
        Run.isMaximal_append_iff notEmpty noneKept keptBehind, List.mem_cons, List.mem_map]
      simp only [inductionHypothesis]

/-! ## What lies between two runs -/

/-- One run comes next behind another: what lies between them is kept, and it is not nothing. -/
def Run.Precedes (earlier later : Run) : Prop :=
  ∃ kept : Script,
    kept.Keeps ∧
      kept.source ≠ [] ∧
      later.front = earlier.front ++ earlier.pieces ++ kept

theorem Run.Precedes.prepend
    {earlier later : Run}
    (precedes : earlier.Precedes later)
    (more : Script) :
    (earlier.prepend more).Precedes (later.prepend more) := by
  obtain ⟨kept, keeps, notNothing, front⟩ := precedes
  exact ⟨kept, keeps, notNothing, by simp [Run.prepend, front]⟩

/-- Everything in front of the first run is kept. -/
theorem keeps_front_of_head? (script : Script) :
    ∀ run ∈ script.runs.head?, run.front.Keeps := by
  induction script using inductionOnRuns with
  | nil =>
      simp [runs]
  | kept piece rest kept inductionHypothesis =>
      intro run isFirst
      rw [runs_cons_of_kept kept, List.head?_map] at isFirst
      obtain ⟨inner, innerFirst, rfl⟩ := Option.map_eq_some_iff.mp isFirst
      exact List.forall_mem_cons.mpr ⟨kept, inductionHypothesis inner innerFirst⟩
  | run pieces behind notEmpty noneKept keptBehind _ =>
      intro run isFirst
      rw [runs_append_of_noneKept notEmpty noneKept keptBehind, List.head?_cons] at isFirst
      cases isFirst
      exact List.forall_mem_nil _

/-- Kept pieces that are not empty show something of the source. -/
theorem source_ne_nil_of_keeps
    {script : Script}
    (notEmpty : script ≠ [])
    (keeps : script.Keeps)
    (noneEmpty : ∀ piece ∈ script, piece.text ≠ []) :
    script.source ≠ [] := by
  obtain ⟨piece, rest, rfl⟩ := List.exists_cons_of_ne_nil notEmpty
  have shown : piece.source = piece.text :=
    show piece.on .source = piece.text from
      Piece.on_of_isKept (keeps piece List.mem_cons_self)
  simp [shown, noneEmpty piece List.mem_cons_self]

/-- Where no piece is empty, there is kept text between each run and the next. -/
theorem isChain_runs
    {script : Script}
    (noneEmpty : ∀ piece ∈ script, piece.text ≠ []) :
    script.runs.IsChain Run.Precedes := by
  induction script using inductionOnRuns with
  | nil =>
      simp [runs]
  | kept piece rest kept inductionHypothesis =>
      rw [runs_cons_of_kept kept, List.isChain_map]
      exact (inductionHypothesis (List.forall_mem_cons.mp noneEmpty).2).imp
        fun _ _ precedes => precedes.prepend [piece]
  | run pieces behind notEmpty noneKept keptBehind inductionHypothesis =>
      have noneEmptyBehind : ∀ piece ∈ behind, piece.text ≠ [] :=
        fun piece member => noneEmpty piece (List.mem_append_right pieces member)
      rw [runs_append_of_noneKept notEmpty noneKept keptBehind, List.isChain_cons,
        List.isChain_map]
      refine ⟨?_, (inductionHypothesis noneEmptyBehind).imp
        fun _ _ precedes => precedes.prepend pieces⟩
      intro next isNext
      rw [List.head?_map] at isNext
      obtain ⟨inner, innerFirst, rfl⟩ := Option.map_eq_some_iff.mp isNext
      have isMaximal := mem_runs_iff.mp (List.mem_of_head? innerFirst)
      have keeps := behind.keeps_front_of_head? inner innerFirst
      refine ⟨inner.front, keeps, source_ne_nil_of_keeps (isMaximal.front_ne_nil keptBehind) keeps
        fun piece member => noneEmptyBehind piece ?_, rfl⟩
      rw [isMaximal.whole]
      simp [member]

/-- The edit of a run covers just what the run deletes. -/
theorem Run.IsMaximal.slice_edit
    {run : Run}
    {script : Script}
    (isMaximal : run.IsMaximal script) :
    script.source.slice run.edit.offset run.edit.stop = run.pieces.source := by
  simp [Text.slice, isMaximal.whole, Run.edit, Edit.stop]

/-- Between the edits of two runs in a row some of the source is left as it is. -/
theorem Run.Precedes.stop_lt
    {earlier later : Run}
    (precedes : earlier.Precedes later) :
    earlier.edit.stop < later.edit.offset := by
  obtain ⟨kept, _, notNothing, front⟩ := precedes
  have someKept := List.length_pos_iff.mpr notNothing
  simp only [edit, Edit.stop, front, source_append, List.length_append]
  omega

end Splice.Script
