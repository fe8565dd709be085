import Splice.Script.Tidy

namespace Splice

/-!
# The two sides of a script

A script shows its source on one side and its target on the other.  What tidying does to a
script leaves both sides as they were, so it is proved for either side at once.
-/

/-- A side of a script: the text it starts from or the one it arrives at. -/
inductive Side where
  | source
  | target
  deriving Repr, DecidableEq

namespace Piece

/-- What a piece shows on a side. -/
def on (side : Side) (piece : Piece) : Text :=
  match side with
  | .source => piece.source
  | .target => piece.target

variable (side : Side) (operation : Operation)

@[simp]
theorem on_keep (text : Text) : on side ⟨.keep, text⟩ = text := by
  cases side <;> rfl

/-- A piece is shown as it is or not at all, whatever its text. -/
theorem on_eq_self_or_nil :
    (∀ text, on side ⟨operation, text⟩ = text) ∨ ∀ text, on side ⟨operation, text⟩ = [] := by
  cases side <;> cases operation <;> simp [on, source, target]

/-- What a change shows is a deletion's text on one side and an insertion's on the other. -/
theorem on_delete_append_on_insert (deleted inserted : Text) :
    on side ⟨.delete, deleted⟩ ++ on side ⟨.insert, inserted⟩ =
      match side with
      | .source => deleted
      | .target => inserted := by
  cases side <;> simp [on, source, target]

@[simp]
theorem on_nil : on side ⟨operation, []⟩ = [] := by
  rcases on_eq_self_or_nil side operation with shown | hidden
  · exact shown []
  · exact hidden []

theorem on_append (first second : Text) :
    on side ⟨operation, first ++ second⟩ =
      on side ⟨operation, first⟩ ++ on side ⟨operation, second⟩ := by
  rcases on_eq_self_or_nil side operation with shown | hidden
  · simp only [shown]
  · simp only [hidden, List.append_nil]

theorem isKept_iff {piece : Piece} : piece.isKept = true ↔ piece.operation = .keep :=
  beq_iff_eq

theorem on_of_isKept
    {side : Side}
    {piece : Piece}
    (kept : piece.isKept = true) :
    piece.on side = piece.text := by
  rcases piece with ⟨operation, text⟩
  obtain rfl : operation = .keep := isKept_iff.mp kept
  exact on_keep side text

end Piece

namespace Script

/-- The text of a side of a script. -/
def on (side : Side) (script : Script) : Text :=
  script.flatMap (Piece.on side)

/-- Whatever is in a piece of a script is shown on one of its sides. -/
theorem mem_source_or_mem_target
    {script : Script}
    {piece : Piece}
    {c : Char}
    (member : piece ∈ script)
    (inPiece : c ∈ piece.text) :
    c ∈ script.source ∨ c ∈ script.target := by
  rcases piece with ⟨operation, text⟩
  cases operation with
  | insert =>
      exact Or.inr (List.mem_flatMap.mpr ⟨_, member, inPiece⟩)
  | keep | delete =>
      exact Or.inl (List.mem_flatMap.mpr ⟨_, member, inPiece⟩)

/-- A script spells two texts exactly if they are its sides. -/
theorem spells_iff_on
    {script : Script}
    {source target : Text} :
    script.Spells source target ↔
      script.on .source = source ∧ script.on .target = target :=
  Iff.rfl

theorem Spells.append
    {first second : Script}
    {source target source' target' : Text}
    (firstSpells : first.Spells source target)
    (secondSpells : second.Spells source' target') :
    (first ++ second).Spells (source ++ source') (target ++ target') := by
  obtain ⟨rfl, rfl⟩ := firstSpells
  obtain ⟨rfl, rfl⟩ := secondSpells
  exact ⟨source_append first second, target_append first second⟩

variable (side : Side)

@[simp]
theorem on_nil : on side [] = [] :=
  rfl

@[simp]
theorem on_cons (piece : Piece) (script : Script) :
    on side (piece :: script) = piece.on side ++ on side script :=
  rfl

@[simp]
theorem on_append (first second : Script) :
    on side (first ++ second) = on side first ++ on side second := by
  simp [on]

@[simp]
theorem on_unlessEmpty (operation : Operation) (text : Text) :
    on side (unlessEmpty operation text) = Piece.on side ⟨operation, text⟩ := by
  unfold unlessEmpty
  split
  · next empty =>
      simp [empty]
  · simp

@[simp]
theorem reverse_unlessEmpty (operation : Operation) (text : Text) :
    (unlessEmpty operation text).reverse = unlessEmpty operation text := by
  unfold unlessEmpty
  split <;> rfl

/-! ## Tidying -/

/-- A run of changes shows what is deleted in it and then what is inserted. -/
theorem on_run
    {run : Script}
    (changes : ∀ piece ∈ run, piece.isKept = false) :
    on side run =
      Piece.on side ⟨.delete, textOf .delete run⟩ ++
        Piece.on side ⟨.insert, textOf .insert run⟩ := by
  induction run with
  | nil =>
      simp [textOf]
  | cons piece rest inductionHypothesis =>
      have restSpelled :=
        inductionHypothesis fun other member => changes other (List.mem_cons_of_mem _ member)
      have changed := changes piece List.mem_cons_self
      rcases piece with ⟨operation, text⟩
      cases operation with
      | keep =>
          cases changed
      | delete =>
          cases side <;>
            simp_all [textOf, Piece.on, Piece.source, Piece.target]
      | insert =>
          cases side <;>
            simp_all [textOf, Piece.on, Piece.source, Piece.target]

theorem on_reverse_keepBehind (done : Script) (text : Text) :
    on side (keepBehind done text).reverse = on side done.reverse ++ text := by
  unfold keepBehind
  split <;> simp [Piece.keep]

/-- What a deletion and an insertion share at their ends is shown once when it is kept. -/
theorem on_reduced (deleted inserted : Text) :
    let start := Text.commonPrefix inserted deleted
    let insertedRest := inserted.drop start.length
    let deletedRest := deleted.drop start.length
    let ending := Text.commonSuffix insertedRest deletedRest
    start ++
        (Piece.on side ⟨.delete, Text.dropEnd deletedRest ending.length⟩ ++
          (Piece.on side ⟨.insert, Text.dropEnd insertedRest ending.length⟩ ++ ending)) =
      Piece.on side ⟨.delete, deleted⟩ ++ Piece.on side ⟨.insert, inserted⟩ := by
  intro start insertedRest deletedRest ending
  rw [← List.append_assoc (Piece.on side _), Piece.on_delete_append_on_insert,
    Piece.on_delete_append_on_insert]
  cases side with
  | source =>
      rw [Text.dropEnd_append_commonSuffix_right, Text.commonPrefix_append_drop_right]
  | target =>
      rw [Text.dropEnd_append_commonSuffix_left, Text.commonPrefix_append_drop_left]

/-- Closing a run shows what lay before it, the run, and the kept text. -/
theorem on_reverse_closeRun
    (done : Script)
    {run : Script}
    (changes : ∀ piece ∈ run, piece.isKept = false)
    (kept : Text) :
    on side (closeRun done run kept).reverse =
      on side done.reverse ++ (on side run ++ kept) := by
  unfold closeRun
  split
  · split <;> simp [Piece.keep]
  · simp [Piece.keep]
  · rw [on_run side changes]
    simp only
    split
    · -- What the run deletes and inserts alike at its start goes to the piece before it.
      have started (start : Text) :
          on side (if start = [] then done else keepBehind done start).reverse =
            on side done.reverse ++ start := by
        split
        · next empty =>
            simp [empty]
        · exact on_reverse_keepBehind side done start
      have reduced := on_reduced side (textOf .delete run) (textOf .insert run)
      simp only at reduced
      simp only [List.reverse_cons, List.reverse_append, reverse_unlessEmpty, on_append,
        on_unlessEmpty, on_cons, on_nil, Piece.keep, Piece.on_keep, started]
      rw [← reduced]
      simp only [List.append_assoc, List.append_nil]
    · simp [Piece.keep]

/-- Gathering runs shows what lay before them, the open run, and the script. -/
theorem on_reverse_gatherRuns
    (done : Script)
    {run : Script}
    (changes : ∀ piece ∈ run, piece.isKept = false)
    (script : Script) :
    on side (gatherRuns done run script).reverse =
      on side done.reverse ++ (on side run.reverse ++ on side script) := by
  induction script generalizing done run with
  | nil =>
      simp [gatherRuns]
  | cons piece rest inductionHypothesis =>
      unfold gatherRuns
      split
      · next kept =>
          have closed : ∀ piece ∈ run.reverse, piece.isKept = false :=
            fun piece member => changes piece (List.mem_reverse.mp member)
          rw [inductionHypothesis _ (by simp), on_reverse_closeRun side done closed]
          simp [Piece.on_of_isKept kept]
      · next changed =>
          rw [inductionHypothesis _ (by
            intro other member
            rcases List.mem_cons.mp member with isPiece | inRun
            · subst isPiece
              simpa using changed
            · exact changes other inRun)]
          simp

@[simp]
theorem on_gather (script : Script) : on side (gather script) = on side script := by
  have gathered :=
    on_reverse_gatherRuns side [] (List.forall_mem_nil _) (script ++ [.keep []])
  unfold gather
  split
  · next closing =>
      rw [closing] at gathered
      simpa [Piece.keep] using gathered
  · simpa [Piece.keep] using gathered

/-- A change that ends with the kept text before it shows the same when moved over that. -/
theorem on_moved_left (operation : Operation) (kept text : Text) :
    Piece.on side ⟨operation, kept ++ text⟩ ++ kept =
      kept ++ Piece.on side ⟨operation, text ++ kept⟩ := by
  rcases Piece.on_eq_self_or_nil side operation with shown | hidden
  · simp [shown]
  · simp [hidden]

theorem exists_dropEnd_of_isSuffixOf
    {ending text : Text}
    (endsWith : ending.isSuffixOf text = true) :
    ∃ front, text = front ++ ending ∧ Text.dropEnd text ending.length = front := by
  obtain ⟨front, rfl⟩ := List.isSuffixOf_iff_suffix.mp endsWith
  exact ⟨front, rfl, by simp [Text.dropEnd]⟩

theorem on_shiftChanges (done : Script) (changed : Bool) (script : Script) :
    on side (shiftChanges done changed script).1 =
      on side done.reverse ++ on side script := by
  fun_induction shiftChanges done changed script with
  | case1 done changed before change behind rest kept endsWith moved inductionHypothesis =>
      obtain ⟨beforeKept, behindKept⟩ := Bool.and_eq_true_iff.mp kept
      obtain ⟨front, changeParts, dropped⟩ := exists_dropEnd_of_isSuffixOf endsWith
      have shifted := on_moved_left side change.operation before.text front
      rw [inductionHypothesis]
      simp only [moved, dropped, on_cons, List.reverse_cons, on_append, Piece.keep,
        Piece.on_keep, on_nil, List.append_nil, List.append_assoc,
        Piece.on_of_isKept beforeKept, Piece.on_of_isKept behindKept]
      rw [← List.append_assoc (Piece.on side _) before.text, shifted, ← changeParts]
      simp only [List.append_assoc]
  | case2 done changed before change behind rest kept _ startsWith moved
      inductionHypothesis =>
      obtain ⟨beforeKept, behindKept⟩ := Bool.and_eq_true_iff.mp kept
      obtain ⟨rear, changeParts⟩ := List.isPrefixOf_iff_prefix.mp startsWith
      have dropped : change.text.drop behind.text.length = rear := by
        rw [← changeParts, List.drop_left]
      have shifted := on_moved_left side change.operation behind.text rear
      rw [inductionHypothesis]
      simp only [moved, dropped, on_cons, List.reverse_cons, on_append, Piece.keep,
        Piece.on_keep, on_nil, List.append_nil, List.append_assoc,
        Piece.on_of_isKept beforeKept, Piece.on_of_isKept behindKept]
      rw [← List.append_assoc behind.text (Piece.on side _), ← shifted, changeParts]
      simp only [List.append_assoc]
  | case3 done changed before change behind rest _ _ _ inductionHypothesis =>
      simpa using inductionHypothesis
  | case4 done changed before change behind rest _ inductionHypothesis =>
      simpa using inductionHypothesis
  | case5 done changed script _ =>
      simp

@[simp]
theorem on_tidyRounds (rounds : Nat) (script : Script) :
    on side (tidyRounds rounds script) = on side script := by
  induction rounds generalizing script with
  | zero =>
      rfl
  | succ rounds inductionHypothesis =>
      have shifted := on_shiftChanges side [] false (gather script)
      unfold tidyRounds
      simp only
      split
      · rw [inductionHypothesis, shifted]
        simp
      · rw [shifted]
        simp

@[simp]
theorem on_tidy (script : Script) : on side (tidy script) = on side script :=
  on_tidyRounds side _ script

end Script

end Splice
