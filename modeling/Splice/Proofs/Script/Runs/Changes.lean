import Splice.Proofs.Script.Runs

namespace Splice.Script

/-!
# One change for each run

Where no piece is empty and the deletions of each run come before its insertions, every run makes
one change.  Its deletions wait together for its first insertion, which makes the change, and the
other insertions join that.  None of them joins an earlier change, because some kept text lies
between.
-/

/-- The deletions come first and the insertions behind them. -/
def DeletionsFirst (pieces : Script) : Prop :=
  ∃ deletions insertions : List Text,
    pieces = deletions.map Piece.delete ++ insertions.map Piece.insert

/-- No piece is empty, and in every run the deletions come first. -/
structure Normal (script : Script) : Prop where
  noneEmpty : ∀ piece ∈ script, piece.text ≠ []
  deletionsFirst : ∀ run : Run, run.IsMaximal script → DeletionsFirst run.pieces

section Sides

variable (texts : List Text)

@[simp]
theorem source_map_delete : source (texts.map Piece.delete) = texts.flatten := by
  simp [source, Piece.source, Piece.delete, List.flatMap_map]

@[simp]
theorem target_map_delete : target (texts.map Piece.delete) = [] := by
  simp [target, Piece.target, Piece.delete]

@[simp]
theorem source_map_insert : source (texts.map Piece.insert) = [] := by
  simp [source, Piece.source, Piece.insert]

@[simp]
theorem target_map_insert : target (texts.map Piece.insert) = texts.flatten := by
  simp [target, Piece.target, Piece.insert, List.flatMap_map]

end Sides

namespace Collector

variable {position : Nat} {changes : List Edit} {last deletion : Edit}

theorem step_delete_of_waiting (text : Text) :
    step ⟨position, some deletion, changes⟩ (.delete text) =
      ⟨position + text.length,
        some { deletion with length := deletion.length + text.length }, changes⟩ :=
  rfl

theorem step_insert_of_waiting (text : Text) :
    step ⟨position, some deletion, changes⟩ (.insert text) =
      ⟨position, none, { deletion with text := text } :: changes⟩ :=
  rfl

theorem step_insert_of_touches
    (touches : last.stop = position)
    (text : Text) :
    step ⟨position, none, last :: changes⟩ (.insert text) =
      ⟨position, none, { last with text := last.text ++ text } :: changes⟩ := by
  simp [step, Piece.insert, insert, touches]

/-- An insertion that touches no change makes one of its own. -/
theorem step_insert_of_apart
    (apart : ∀ last ∈ changes.head?, last.stop ≠ position)
    (text : Text) :
    step ⟨position, none, changes⟩ (.insert text) =
      ⟨position, none, ⟨position, 0, text⟩ :: changes⟩ := by
  cases changes with
  | nil =>
      rfl
  | cons last earlier =>
      simp [step, Piece.insert, insert, apart last rfl]

/-- Deletions in a row join the one that waits. -/
theorem foldl_step_map_delete (texts : List Text) :
    (texts.map Piece.delete).foldl step ⟨position, some deletion, changes⟩ =
      ⟨position + texts.flatten.length,
        some { deletion with length := deletion.length + texts.flatten.length }, changes⟩ := by
  induction texts generalizing position deletion with
  | nil =>
      rfl
  | cons text rest inductionHypothesis =>
      rw [List.map_cons, List.foldl_cons, step_delete_of_waiting, inductionHypothesis]
      simp [Nat.add_assoc]

/-- Insertions in a row join the change that ends where they are. -/
theorem foldl_step_map_insert
    (last : Edit)
    (touches : last.stop = position)
    (texts : List Text) :
    (texts.map Piece.insert).foldl step ⟨position, none, last :: changes⟩ =
      ⟨position, none, { last with text := last.text ++ texts.flatten } :: changes⟩ := by
  induction texts generalizing last with
  | nil =>
      simp
  | cons text rest inductionHypothesis =>
      rw [List.map_cons, List.foldl_cons, step_insert_of_touches touches,
        inductionHypothesis { last with text := last.text ++ text } touches]
      simp

/-- Flushed behind a run that touches no earlier change, a collector holds one change for it. -/
theorem flush_foldl_step_of_deletionsFirst
    {pieces : Script}
    (notEmpty : pieces ≠ [])
    (deletionsFirst : DeletionsFirst pieces)
    (apart : ∀ last ∈ changes.head?, last.stop ≠ position) :
    (pieces.foldl step ⟨position, none, changes⟩).flush =
      ⟨position + pieces.source.length, none,
        ⟨position, pieces.source.length, pieces.target⟩ :: changes⟩ := by
  obtain ⟨deletions, insertions, rfl⟩ := deletionsFirst
  rw [List.foldl_append]
  cases deletions with
  | nil =>
      cases insertions with
      | nil =>
          exact (notEmpty rfl).elim
      | cons inserted others =>
          rw [List.map_nil, List.foldl_nil, List.map_cons, List.foldl_cons,
            step_insert_of_apart apart,
            foldl_step_map_insert ⟨position, 0, inserted⟩ (Nat.add_zero position)]
          simp [flush, Piece.source, Piece.target, Piece.insert]
  | cons deleted others =>
      have started :
          step ⟨position, none, changes⟩ (.delete deleted) =
            ⟨position + deleted.length, some ⟨position, deleted.length, []⟩, changes⟩ :=
        rfl
      rw [List.map_cons, List.foldl_cons, started, foldl_step_map_delete]
      cases insertions with
      | nil =>
          simp [flush, Piece.source, Piece.target, Piece.delete, Nat.add_assoc]
      | cons inserted more =>
          rw [List.map_cons, List.foldl_cons, step_insert_of_waiting,
            foldl_step_map_insert _ (by simp [Edit.stop, Nat.add_assoc])]
          simp [flush, Piece.source, Piece.target, Piece.delete, Piece.insert, Nat.add_assoc]

/-- A kept piece flushes the collector in any case, and so does the end of a script. -/
theorem flush_foldl_step_flush
    (collector : Collector)
    {script : Script}
    (kept : ∀ piece ∈ script.head?, piece.isKept = true) :
    (script.foldl step collector.flush).flush = (script.foldl step collector).flush := by
  have flushedOnce : collector.flush.flush = collector.flush := by
    rcases collector with ⟨position, _ | deletion, changes⟩ <;> rfl
  cases script with
  | nil =>
      exact flushedOnce
  | cons piece rest =>
      have keeps := Piece.isKept_iff.mp (kept piece rfl)
      have same : step collector.flush piece = step collector piece := by
        simp only [step, keeps, keep, flushedOnce]
      rw [List.foldl_cons, List.foldl_cons, same]

/-- The last change ends in front of the position, or there if a kept piece or nothing is next. -/
def Apart (changes : List Edit) (position : Nat) (script : Script) : Prop :=
  ∀ last ∈ changes.head?,
    last.stop < position ∨
      last.stop = position ∧ ∀ piece ∈ script.head?, piece.isKept = true

/-- Behind text that is kept, whatever comes next lies apart. -/
theorem Apart.of_lt
    {script rest : Script}
    {further : Nat}
    (apart : Apart changes position script)
    (moved : position < further) :
    Apart changes further rest := by
  intro last isLast
  rcases apart last isLast with inFront | ⟨touches, _⟩
  · exact Or.inl (inFront.trans moved)
  · exact Or.inl (touches ▸ moved)

/-- No change touches a run. -/
theorem Apart.stop_ne
    {pieces behind : Script}
    (apart : Apart changes position (pieces ++ behind))
    (notEmpty : pieces ≠ [])
    (noneKept : ∀ piece ∈ pieces, piece.isKept = false) :
    ∀ last ∈ changes.head?, last.stop ≠ position := by
  intro last isLast touches
  rcases apart last isLast with inFront | ⟨_, keptNext⟩
  · exact absurd touches (Nat.ne_of_lt inFront)
  · obtain ⟨piece, others, rfl⟩ := List.exists_cons_of_ne_nil notEmpty
    cases (keptNext piece rfl).symm.trans (noneKept piece List.mem_cons_self)

end Collector

/-- Behind pieces that have been walked over, each further run makes one change. -/
theorem changes_flush_foldl_step
    {script : Script}
    (front : Script)
    (changes : List Edit)
    (noneEmpty : ∀ piece ∈ script, piece.text ≠ [])
    (deletionsFirst : ∀ run ∈ script.runs, DeletionsFirst run.pieces)
    (apart : Collector.Apart changes front.source.length script) :
    (script.foldl Collector.step ⟨front.source.length, none, changes⟩).flush.changes =
      (script.runs.map fun run => (run.prepend front).edit).reverse ++ changes := by
  induction script using inductionOnRuns generalizing front changes with
  | nil =>
      simp [runs, Collector.flush]
  | kept piece rest kept inductionHypothesis =>
      rw [List.forall_mem_cons] at noneEmpty
      rw [runs_cons_of_kept kept] at deletionsFirst ⊢
      have moved : (front ++ [piece]).source.length =
          front.source.length + piece.text.length := by
        simp [Piece.source, Piece.isKept_iff.mp kept]
      have further : front.source.length < (front ++ [piece]).source.length := by
        have someText := List.length_pos_iff.mpr noneEmpty.1
        omega
      have restDeletionsFirst : ∀ run ∈ rest.runs, DeletionsFirst run.pieces :=
        fun run member => deletionsFirst (run.prepend [piece]) (List.mem_map_of_mem member)
      rw [List.foldl_cons, Collector.step_of_isKept kept, ← moved,
        inductionHypothesis (front ++ [piece]) changes noneEmpty.2 restDeletionsFirst
          (apart.of_lt further)]
      simp [Run.prepend_prepend]
  | run pieces behind notEmpty noneKept keptBehind inductionHypothesis =>
      rw [runs_append_of_noneKept notEmpty noneKept keptBehind] at deletionsFirst ⊢
      rw [List.forall_mem_cons] at deletionsFirst
      have behindDeletionsFirst : ∀ run ∈ behind.runs, DeletionsFirst run.pieces :=
        fun run member => deletionsFirst.2 (run.prepend pieces) (List.mem_map_of_mem member)
      have noneEmptyBehind : ∀ piece ∈ behind, piece.text ≠ [] :=
        fun piece member => noneEmpty piece (List.mem_append_right pieces member)
      rw [List.foldl_append, ← Collector.flush_foldl_step_flush _ keptBehind,
        Collector.flush_foldl_step_of_deletionsFirst notEmpty deletionsFirst.1
          (apart.stop_ne notEmpty noneKept),
        ← List.length_append, ← source_append,
        inductionHypothesis (front ++ pieces) _ noneEmptyBehind behindDeletionsFirst]
      · simp [Run.prepend, Run.edit]
      · -- The change of this run ends where the next kept piece starts.
        intro last isLast
        cases isLast
        have ends : (front ++ pieces).source.length =
            front.source.length + pieces.source.length := by
          simp
        exact Or.inr ⟨ends.symm, keptBehind⟩

/-- The changes of a script in normal form are the edits of its runs. -/
theorem Normal.changes_eq
    {script : Script}
    (normal : script.Normal) :
    script.changes = script.runs.map Run.edit := by
  have deletionsFirst : ∀ run ∈ script.runs, DeletionsFirst run.pieces :=
    fun run member => normal.deletionsFirst run (mem_runs_iff.mp member)
  have apart : Collector.Apart [] (source []).length script := by
    simp [Collector.Apart]
  have walked := changes_flush_foldl_step [] [] normal.noneEmpty deletionsFirst apart
  rw [source_nil, List.length_nil, List.append_nil] at walked
  rw [changes, changesBackward, Collector.start, walked, List.reverse_reverse]
  rfl

/-- The edit of such a run covers just what the run deletes, and its text is what it inserts. -/
theorem Run.IsMaximal.exists_covered
    {script : Script}
    {run : Run}
    (isMaximal : run.IsMaximal script)
    (deletionsFirst : DeletionsFirst run.pieces) :
    ∃ deletions insertions : List Text,
      run.pieces = deletions.map Piece.delete ++ insertions.map Piece.insert ∧
        script.source.slice run.edit.offset run.edit.stop = deletions.flatten ∧
        run.edit.length = deletions.flatten.length ∧
        run.edit.text = insertions.flatten := by
  obtain ⟨deletions, insertions, parts⟩ := deletionsFirst
  refine ⟨deletions, insertions, parts, ?_, ?_, ?_⟩
  · rw [isMaximal.slice_edit, parts]
    simp
  · simp [Run.edit, parts]
  · simp [Run.edit, parts]

end Splice.Script
