import Splice.Proofs.Script.Sides
import Splice.Script.Readable

namespace Splice

/-!
# The script between two texts

The script between two texts spells them: every way to compare them at once does, a cut is
made only where both hold the common stretch, and what makes a script readable keeps both
of its sides.
-/

/-- A needle that is found lies in the text where it was found. -/
theorem Text.exists_parts_of_findFrom
    {needle text : Text}
    {position found : Nat}
    (occurs : findFrom needle position text = some found) :
    ∃ before behind,
      text = before ++ needle ++ behind ∧ found = position + before.length := by
  induction text generalizing position with
  | nil =>
      unfold findFrom at occurs
      split at occurs
      · next empty =>
          cases occurs
          exact ⟨[], [], by simp [empty], rfl⟩
      · cases occurs
  | cons c rest inductionHypothesis =>
      unfold findFrom at occurs
      split at occurs
      · next starts =>
          cases occurs
          obtain ⟨behind, parts⟩ := List.isPrefixOf_iff_prefix.mp starts
          exact ⟨[], behind, by simp [parts], rfl⟩
      · obtain ⟨before, behind, rfl, rfl⟩ := inductionHypothesis occurs
        exact ⟨c :: before, behind, rfl, by simp; omega⟩

/-- A text is what lies in front of a needle that is found in it, the needle, and the rest. -/
theorem Text.take_append_needle_append_drop
    {text needle : Text}
    {position : Nat}
    (occurs : text.find? needle 0 = some position) :
    text.take position ++ needle ++ text.drop (position + needle.length) = text := by
  obtain ⟨before, behind, parts, rfl⟩ := exists_parts_of_findFrom occurs
  rw [List.drop_zero] at parts
  subst parts
  simp [← List.drop_drop]

namespace Script

/-! ## Comparing -/

theorem spells_replaceAll (source target : Text) :
    (replaceAll source target).Spells source target := by
  constructor <;> simp [replaceAll, Piece.delete, Piece.insert, Piece.source, Piece.target]

theorem spells_of_containing?
    {source target : Text}
    {script : Script}
    (contains : containing? source target = some script) :
    script.Spells source target := by
  unfold containing? at contains
  split at contains
  · obtain ⟨position, occurs, rfl⟩ := Option.map_eq_some_iff.mp contains
    have parts := Text.take_append_needle_append_drop occurs
    constructor
    · simpa [Piece.delete, Piece.keep, Piece.source] using parts
    · simp [Piece.delete, Piece.keep, Piece.target]
  · obtain ⟨position, occurs, rfl⟩ := Option.map_eq_some_iff.mp contains
    have parts := Text.take_append_needle_append_drop occurs
    constructor
    · simp [Piece.insert, Piece.keep, Piece.source]
    · simpa [Piece.insert, Piece.keep, Piece.target] using parts

/-- Texts that are compared at once are spelled by their script. -/
theorem spells_of_plan_eq_whole
    {source target : Text}
    {script : Script}
    (planned : plan source target = .whole script) :
    script.Spells source target := by
  unfold plan at planned
  split at planned
  · next noSource =>
      cases planned
      constructor <;> simp [Piece.insert, Piece.source, Piece.target, noSource]
  · split at planned
    · next noTarget =>
        cases planned
        constructor <;> simp [Piece.delete, Piece.source, Piece.target, noTarget]
    · split at planned
      · next contains =>
          cases planned
          exact spells_of_containing? contains
      · split at planned
        · cases planned
          exact spells_replaceAll source target
        · split at planned
          · cases planned
            exact spells_replaceAll source target
          · split at planned
            · cases planned
            · cases planned
              exact spells_replaceAll source target

/-- What a frame takes off two texts and what it leaves of them make them up. -/
theorem Frame.parts_ofTexts (source target : Text) :
    let frame := Frame.ofTexts source target
    frame.start ++ frame.source ++ frame.ending = source ∧
      frame.start ++ frame.target ++ frame.ending = target := by
  constructor
  · simp only [Frame.ofTexts, List.append_assoc, Text.dropEnd_append_commonSuffix_left,
      Text.commonPrefix_append_drop_left]
  · simp only [Frame.ofTexts, List.append_assoc, Text.dropEnd_append_commonSuffix_right,
      Text.commonPrefix_append_drop_right]

theorem spells_unlessEmpty_keep (text : Text) :
    (unlessEmpty .keep text).Spells text text := by
  rw [spells_iff_on]
  simp

theorem Spells.tidy
    {script : Script}
    {source target : Text}
    (spells : script.Spells source target) :
    (Script.tidy script).Spells source target := by
  rw [spells_iff_on] at spells ⊢
  simpa using spells

/-- A comparison spells the two texts that are compared. -/
theorem spells_compare (source target : Text) :
    (compare source target).Spells source target := by
  fun_induction compare source target with
  | case1 text =>
      exact spells_unlessEmpty_keep text
  | case2 source target _ frame middle leftSpells rightSpells =>
      have middleSpells : middle.Spells frame.source frame.target := by
        unfold middle
        cases planned : plan frame.source frame.target with
        | whole script =>
            exact spells_of_plan_eq_whole planned
        | cut cut =>
            have spells :=
              ((leftSpells cut).append (spells_unlessEmpty_keep cut.common)).append
                (rightSpells cut)
            rwa [cut.source_eq, cut.target_eq] at spells
      have framed :=
        ((spells_unlessEmpty_keep frame.start).append middleSpells).append
          (spells_unlessEmpty_keep frame.ending)
      obtain ⟨sourceParts, targetParts⟩ := Frame.parts_ofTexts source target
      rw [sourceParts, targetParts] at framed
      exact framed.tidy

/-! ## Making readable -/

section

variable (side : Side)

/-- The text of a side of a script that is parted at a place. -/
def onParted (parted : Parted) : Text :=
  on side (parted.1.reverse ++ parted.2)

theorem onParted_cons_left (piece : Piece) (before behind : Script) :
    onParted side (piece :: before, behind) = onParted side (before, piece :: behind) := by
  simp [onParted]

theorem onParted_stepBack (skipped : Nat) (before behind : Script) :
    onParted side (stepBack skipped before behind) = onParted side (before, behind) := by
  fun_induction stepBack skipped before behind with
  | case1 =>
      rfl
  | case2 =>
      rfl
  | case3 piece before behind _ fewer inductionHypothesis =>
      rw [inductionHypothesis, onParted_cons_left]
  | case4 skipped piece before behind _ inductionHypothesis =>
      rw [inductionHypothesis, onParted_cons_left]

/-- Deleting a kept text and inserting it again shows it on both sides. -/
theorem onParted_dissolveNearest (before behind : Script) :
    onParted side (dissolveNearest before behind) = onParted side (before, behind) := by
  fun_induction dissolveNearest before behind with
  | case1 =>
      rfl
  | case2 behind piece before kept =>
      rw [onParted_stepBack, onParted_cons_left]
      simp only [onParted, on_append, on_cons, Piece.delete, Piece.insert]
      rw [← List.append_assoc (Piece.on side _), Piece.on_delete_append_on_insert,
        Piece.on_of_isKept kept]
      cases side <;> rfl
  | case3 behind piece before _ inductionHypothesis =>
      rw [inductionHypothesis, onParted_cons_left]

theorem onParted_of_dissolveNext?
    {balance : Balance}
    {before behind : Script}
    {parted : Parted}
    (dissolved : dissolveNext? balance before behind = some parted) :
    onParted side parted = onParted side (before, behind) := by
  fun_induction dissolveNext? balance before behind with
  | case1 =>
      cases dissolved
  | case2 balance before piece behind _ inductionHypothesis =>
      rw [inductionHypothesis dissolved, onParted_cons_left]
  | case3 balance before piece behind _ _ _ =>
      cases dissolved
      exact onParted_dissolveNearest side before (piece :: behind)
  | case4 balance before piece behind _ _ _ inductionHypothesis =>
      rw [inductionHypothesis dissolved, onParted_cons_left]

theorem on_dissolveRounds (count : Nat) (parted : Parted) :
    on side (dissolveRounds count parted) = onParted side parted := by
  induction count generalizing parted with
  | zero =>
      rfl
  | succ count inductionHypothesis =>
      rcases parted with ⟨before, behind⟩
      unfold dissolveRounds
      split
      · rfl
      · next dissolved =>
          rw [inductionHypothesis, onParted_of_dissolveNext? side dissolved]

@[simp]
theorem on_dissolve (script : Script) : on side (dissolve script) = on side script := by
  rw [dissolve, on_dissolveRounds]
  rfl

end

namespace Slot

/-- The slot parts the same two texts, the one with the change and the one without it. -/
def Parts (slot : Slot) (withChange without : Text) : Prop :=
  slot.before.reverse ++ slot.change ++ slot.behind = withChange ∧
    slot.before.reverse ++ slot.behind = without

theorem parts_leftmost (before change behind : Text) :
    (leftmost before change behind).Parts (before ++ change ++ behind) (before ++ behind) := by
  have beforeParts := Text.dropEnd_append_commonSuffix_left before change
  have changeParts := Text.dropEnd_append_commonSuffix_right before change
  simp only [Parts, leftmost, List.reverse_reverse]
  constructor
  · calc
      _ = (Text.dropEnd before (Text.commonSuffix before change).length ++
              Text.commonSuffix before change) ++
            (Text.dropEnd change (Text.commonSuffix before change).length ++
              Text.commonSuffix before change) ++ behind := by
        simp only [List.append_assoc]
      _ = before ++ change ++ behind := by
        rw [beforeParts, changeParts]
  · rw [← List.append_assoc, beforeParts]

theorem Parts.of_slide?
    {slot next : Slot}
    {withChange without : Text}
    (parts : slot.Parts withChange without)
    (moved : slot.slide? = some next) :
    next.Parts withChange without := by
  obtain ⟨rfl, rfl⟩ := parts
  unfold slide? at moved
  split at moved
  · next changeShape behindShape =>
      split at moved
      · next same =>
          cases moved
          simp [Parts, changeShape, behindShape, same]
      · cases moved
  · cases moved

theorem parts_best
    {held slot : Slot}
    {withChange without : Text}
    (heldParts : held.Parts withChange without)
    (slotParts : slot.Parts withChange without) :
    (best held slot).Parts withChange without := by
  fun_induction best held slot with
  | case1 =>
      exact heldParts
  | case2 held slot next moved inductionHypothesis =>
      have nextParts := slotParts.of_slide? moved
      apply inductionHypothesis _ nextParts
      split
      · exact nextParts
      · exact heldParts

theorem parts_choose (before change behind : Text) :
    (choose before change behind).Parts (before ++ change ++ behind) (before ++ behind) :=
  parts_best (parts_leftmost before change behind) (parts_leftmost before change behind)

/-- A slot that parts the same texts shows the same, whatever the change is. -/
theorem Parts.on_eq
    {slot : Slot}
    {before change behind : Text}
    (parts : slot.Parts (before ++ change ++ behind) (before ++ behind))
    (side : Side)
    (operation : Operation) :
    slot.before.reverse ++ (Piece.on side ⟨operation, slot.change⟩ ++ slot.behind) =
      before ++ (Piece.on side ⟨operation, change⟩ ++ behind) := by
  obtain ⟨withChange, without⟩ := parts
  rcases Piece.on_eq_self_or_nil side operation with shown | hidden
  · simpa [shown] using withChange
  · simpa [hidden] using without

end Slot

section

variable (side : Side)

/-- A change between two kept pieces shows the same in its best slot. -/
theorem on_choose
    {before behind : Piece}
    (kept : (before.isKept && behind.isKept) = true)
    (change : Piece)
    (rest : Script) :
    let slot := Slot.choose before.text change.text behind.text
    on side (before :: change :: behind :: rest) =
      slot.before.reverse ++
        (Piece.on side ⟨change.operation, slot.change⟩ ++ (slot.behind ++ on side rest)) := by
  obtain ⟨beforeKept, behindKept⟩ := Bool.and_eq_true_iff.mp kept
  have chosen :=
    (Slot.parts_choose before.text change.text behind.text).on_eq side change.operation
  simp only [on_cons, Piece.on_of_isKept beforeKept, Piece.on_of_isKept behindKept]
  rw [← List.append_assoc (Piece.on side _), ← List.append_assoc, ← chosen]
  simp only [List.append_assoc]

theorem on_slideChanges (done script : Script) :
    on side (slideChanges done script) = on side done.reverse ++ on side script := by
  fun_induction slideChanges done script with
  | case1 done before change behind rest kept slot left unmoved inductionHypothesis =>
      simpa using inductionHypothesis
  | case2 done before change behind rest kept slot left moved _ noLeft
      inductionHypothesis =>
      have nothing : slot.before.reverse = [] := noLeft
      rw [inductionHypothesis, on_choose side kept change rest, nothing]
      simp [moved, slot, Piece.keep]
  | case3 done before change behind rest kept slot left moved _ _ noRight
      inductionHypothesis =>
      have nothing : slot.behind = [] := noRight
      rw [inductionHypothesis, on_choose side kept change rest, nothing]
      simp [moved, left, slot, Piece.keep]
  | case4 done before change behind rest kept slot left moved _ _ _ inductionHypothesis =>
      rw [inductionHypothesis, on_choose side kept change rest]
      simp [moved, left, slot, Piece.keep]
  | case5 done before change behind rest _ inductionHypothesis =>
      simpa using inductionHypothesis
  | case6 =>
      simp

/-! ## Keeping overlaps -/

/-- An overlap is an end of the one text and a start of the other. -/
theorem exists_parts_of_overlap (left right : Text) :
    ∃ front shared behind,
      left = front ++ shared ∧
        right = shared ++ behind ∧ Text.overlap left right = shared.length := by
  induction left with
  | nil =>
      exact ⟨[], [], right, rfl, rfl, rfl⟩
  | cons c rest inductionHypothesis =>
      unfold Text.overlap
      split
      · next starts =>
          obtain ⟨behind, parts⟩ := List.isPrefixOf_iff_prefix.mp starts
          exact ⟨[], c :: rest, behind, rfl, parts.symm, rfl⟩
      · obtain ⟨front, shared, behind, rfl, rightParts, length⟩ := inductionHypothesis
        exact ⟨c :: front, shared, behind, rfl, rightParts, length⟩

/-- Parting both texts at their overlap and keeping it once spells the one text. -/
theorem dropEnd_overlap_append_take (left right : Text) :
    Text.dropEnd left (Text.overlap left right) ++ right.take (Text.overlap left right) =
      left := by
  obtain ⟨front, shared, behind, rfl, rfl, length⟩ := exists_parts_of_overlap left right
  simp [length, Text.dropEnd]

theorem on_keepOverlaps (done script : Script) :
    on side (keepOverlaps done script) = on side done.reverse ++ on side script := by
  fun_induction keepOverlaps done script with
  | case1 done deleted inserted rest ahead back large _ _ inductionHypothesis =>
      have parts : Text.dropEnd deleted ahead ++ inserted.take ahead = deleted :=
        dropEnd_overlap_append_take deleted inserted
      rw [inductionHypothesis]
      cases side with
      | source =>
          have shown :
              Text.dropEnd deleted ahead ++ (inserted.take ahead ++ on .source rest) =
                deleted ++ on .source rest := by
            rw [← List.append_assoc, parts]
          simpa [Piece.on, Piece.source, Piece.delete, Piece.keep, Piece.insert] using shown
      | target =>
          simp [Piece.on, Piece.target, Piece.delete, Piece.keep, Piece.insert]
  | case2 done deleted inserted rest ahead back large _ _ inductionHypothesis =>
      rw [inductionHypothesis]
      simp [Piece.delete, Piece.insert]
  | case3 done deleted inserted rest ahead back large _ _ inductionHypothesis =>
      have parts : Text.dropEnd inserted back ++ deleted.take back = inserted :=
        dropEnd_overlap_append_take inserted deleted
      rw [inductionHypothesis]
      cases side with
      | source =>
          simp [Piece.on, Piece.source, Piece.delete, Piece.keep, Piece.insert]
      | target =>
          have shown :
              Text.dropEnd inserted back ++ (deleted.take back ++ on .target rest) =
                inserted ++ on .target rest := by
            rw [← List.append_assoc, parts]
          simpa [Piece.on, Piece.target, Piece.delete, Piece.keep, Piece.insert] using shown
  | case4 done deleted inserted rest ahead back large _ _ inductionHypothesis =>
      rw [inductionHypothesis]
      simp [Piece.delete, Piece.insert]
  | case5 done piece rest _ inductionHypothesis =>
      simpa using inductionHypothesis
  | case6 done =>
      simp

@[simp]
theorem on_readable (script : Script) : on side (readable script) = on side script := by
  unfold readable
  rw [on_keepOverlaps, on_slideChanges]
  split
  · simp
  · simp

end

/-- The readable script between two texts spells them. -/
theorem spells_between (source target : Text) :
    (between source target).Spells source target := by
  have spells := spells_compare source target
  rw [spells_iff_on] at spells ⊢
  simpa [between] using spells

end Script

end Splice
