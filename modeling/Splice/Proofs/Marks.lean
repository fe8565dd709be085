import Mathlib.Data.List.Basic
import Splice.Marks
import Splice.Proofs.Batch
import Splice.Text.Shared

namespace Splice

/-!
# Reading both versions off a marked-up text

A marked-up text tells how the text was before the edit that is shown in it, and how it is
behind the edit.  As long as nothing that is shown holds a brace, every brace belongs to a
mark.  So a walk through the marked-up text knows where a block begins and ends, and from the
sign behind the opening brace it knows what to do with the content.  The text before the edit
keeps deletions only, and the text behind it insertions only.
-/

/-- A text is what lies in front of a range, what lies in it and what lies behind it. -/
theorem Text.take_append_slice_append_drop
    {α : Type}
    (text : Text α)
    {offset stop : Nat}
    (ordered : offset ≤ stop) :
    text.take offset ++ (text.slice offset stop ++ text.drop stop) = text := by
  have behind : text.drop stop = (text.drop offset).drop (stop - offset) := by
    rw [List.drop_drop, Nat.add_sub_cancel' ordered]
  rw [slice, behind, List.take_append_drop, List.take_append_drop]

namespace Marks

/-- The text holds neither an opening nor a closing brace. -/
def Braceless (text : Text CodePoint) : Prop :=
  .char '\x7b' ∉ text ∧ .char '\x7d' ∉ text

instance (text : Text CodePoint) : Decidable (Braceless text) :=
  inferInstanceAs (Decidable (_ ∧ _))

theorem Braceless.of_subset
    {text piece : Text CodePoint}
    (braceless : Braceless text)
    (within : piece ⊆ text) :
    Braceless piece :=
  ⟨fun opens => braceless.1 (within opens), fun closes => braceless.2 (within closes)⟩

/-! ## One side of a marked-up text -/

/-- The sign between the opening brace of a deletion and its content. -/
def deletionSign : Text CodePoint :=
  Text.points ['-', '-']

def insertionSign : Text CodePoint :=
  Text.points ['+', '+']

def commentSign : Text CodePoint :=
  Text.points ['>', '>']

/-- The content of a block between its signs, if its opening sign is the given one. -/
def contentOf (sign inner : Text CodePoint) : Text CodePoint :=
  if sign.isPrefixOf inner then
    Text.dropEnd (inner.drop sign.length) sign.length
  else
    []

/--
What stands outside of all blocks, with the content of the blocks that have the sign.  In a
block, `held` is what has been read of it.
-/
def side
    (sign : Text CodePoint) :
    (held : Option (Text CodePoint)) → Text CodePoint → Text CodePoint
  | _, [] => []
  | none, c :: rest =>
      if c = .char '\x7b' then
        side sign (some []) rest
      else
        c :: side sign none rest
  | some inner, c :: rest =>
      if c = .char '\x7d' then
        contentOf sign inner ++ side sign none rest
      else
        side sign (some (inner ++ [c])) rest

variable {sign ownSign closingSign content : Text CodePoint}

theorem contentOf_signed
    (content : Text CodePoint)
    (sameLength : ownSign.length = sign.length)
    (closingLength : closingSign.length = sign.length) :
    contentOf sign (ownSign ++ content ++ closingSign) =
      if ownSign = sign then content else [] := by
  rw [contentOf, List.append_assoc]
  by_cases isSign : ownSign = sign
  · subst isSign
    have starts : ownSign.isPrefixOf (ownSign ++ (content ++ closingSign)) = true :=
      List.isPrefixOf_iff_prefix.mpr (List.prefix_append _ _)
    rw [if_pos starts, if_pos rfl, List.drop_left, Text.dropEnd, List.length_append,
      closingLength, Nat.add_sub_cancel, List.take_left]
  · have otherStart : ¬sign.isPrefixOf (ownSign ++ (content ++ closingSign)) = true := by
      rw [List.isPrefixOf_iff_prefix]
      intro starts
      have startsSign :=
        List.prefix_of_prefix_length_le starts (List.prefix_append _ _)
          (Nat.le_of_eq sameLength.symm)
      exact isSign (startsSign.eq_of_length sameLength.symm).symm
    rw [if_neg otherStart, if_neg isSign]

/-- Outside of blocks, a text without opening braces is read as it is. -/
theorem side_append
    {plain : Text CodePoint}
    (noOpening : .char '\x7b' ∉ plain)
    (rest : Text CodePoint) :
    side sign none (plain ++ rest) = plain ++ side sign none rest := by
  induction plain with
  | nil =>
      rfl
  | cons c plain inductionHypothesis =>
      rw [List.mem_cons, not_or] at noOpening
      rw [List.cons_append, side, if_neg (Ne.symm noOpening.1),
        inductionHypothesis noOpening.2, List.cons_append]

/-- A block is read up to the first closing brace. -/
theorem side_closing
    {inner : Text CodePoint}
    (noClosing : .char '\x7d' ∉ inner)
    (held rest : Text CodePoint) :
    side sign (some held) (inner ++ .char '\x7d' :: rest) =
      contentOf sign (held ++ inner) ++ side sign none rest := by
  induction inner generalizing held with
  | nil =>
      rw [List.nil_append, side, if_pos rfl, List.append_nil]
  | cons c inner inductionHypothesis =>
      rw [List.mem_cons, not_or] at noClosing
      rw [List.cons_append, side, if_neg (Ne.symm noClosing.1),
        inductionHypothesis noClosing.2, List.append_assoc, List.singleton_append]

/-- A block gives its content to the side of its sign, and nothing to any other side. -/
theorem side_block
    {opening closing : String}
    (ownSign closingSign : Text CodePoint)
    (opens : Text.points opening.toList = .char '\x7b' :: ownSign)
    (closes : Text.points closing.toList = closingSign ++ [.char '\x7d'])
    (signsBraceless : .char '\x7d' ∉ ownSign ++ closingSign)
    (sameLength : ownSign.length = sign.length)
    (closingLength : closingSign.length = sign.length)
    (braceless : Braceless content)
    (rest : Text CodePoint) :
    side sign none (block opening closing content ++ rest) =
      (if ownSign = sign then content else []) ++ side sign none rest := by
  by_cases empty : content = []
  · simp [block, empty]
  · have noClosing : .char '\x7d' ∉ ownSign ++ content ++ closingSign := by
      have notWithin := braceless.2
      simp only [List.mem_append, not_or] at signsBraceless ⊢
      exact ⟨⟨signsBraceless.1, notWithin⟩, signsBraceless.2⟩
    have parts :
        block opening closing content ++ rest =
          .char '\x7b' :: (ownSign ++ content ++ closingSign ++ .char '\x7d' :: rest) := by
      simp [block, empty, opens, closes]
    rw [parts, side, if_pos rfl, side_closing noClosing, List.nil_append,
      contentOf_signed content sameLength closingLength]

/-- A change gives its target to the side of deletions and its replacement to that of insertions. -/
theorem side_change
    {target replacement remark : Text CodePoint}
    (signLength : sign.length = 2)
    (targetBraceless : Braceless target)
    (replacementBraceless : Braceless replacement)
    (remarkBraceless : Braceless remark)
    (rest : Text CodePoint) :
    side sign none (change target replacement remark ++ rest) =
      (if deletionSign = sign then target else []) ++
        ((if insertionSign = sign then replacement else []) ++
          ((if commentSign = sign then remark else []) ++ side sign none rest)) := by
  rw [change, List.append_assoc, List.append_assoc, deletion, insertion, comment,
    side_block deletionSign deletionSign rfl rfl (by decide) signLength.symm signLength.symm
      targetBraceless,
    side_block insertionSign insertionSign rfl rfl (by decide) signLength.symm signLength.symm
      replacementBraceless,
    side_block commentSign (Text.points ['<', '<']) rfl rfl (by decide) signLength.symm
      signLength.symm remarkBraceless]

/-! ## Both versions -/

/-- The text before the edit that is shown: insertions and comments are left out. -/
def original (marked : Text CodePoint) : Text CodePoint :=
  side deletionSign none marked

/-- The text behind the edit that is shown: deletions and comments are left out. -/
def revised (marked : Text CodePoint) : Text CodePoint :=
  side insertionSign none marked

/-- The text behind an edit; without one it stays as it is. -/
def revise
    (text : Text CodePoint)
    (edit : Option (Edit CodePoint)) :
    Except RangeError (Text CodePoint) :=
  match edit with
  | none => .ok text
  | some edit => text.apply edit

/-- The edit fits the text, and neither the text nor what is shown in it holds a brace. -/
structure Unambiguous
    (text : Text CodePoint)
    (edit : Option (Edit CodePoint))
    (remark : Option (Text CodePoint)) : Prop where
  fits : ∀ shown ∈ edit, shown.stop ≤ text.length
  text_braceless : Braceless text
  edit_braceless : ∀ shown ∈ edit, Braceless shown.text
  remark_braceless : ∀ shown ∈ remark, Braceless shown

variable {text : Text CodePoint} {edit : Option (Edit CodePoint)} {remark : Option (Text CodePoint)}

theorem Unambiguous.remark_getD (shown : Unambiguous text edit remark) :
    Braceless (remark.getD []) := by
  cases remark with
  | none =>
      exact ⟨List.not_mem_nil, List.not_mem_nil⟩
  | some remark =>
      exact shown.remark_braceless remark rfl

/-- A text in which nothing is marked is the same on every side. -/
theorem side_of_braceless (braceless : Braceless text) : side sign none text = text := by
  have read : side sign none (text ++ []) = text ++ side sign none [] :=
    side_append braceless.1 []
  simpa [side] using read

/-- What stands around the change is on every side. -/
theorem side_render
    {shown : Edit CodePoint}
    {marked : Text CodePoint}
    (sign : Text CodePoint)
    (signLength : sign.length = 2)
    (unambiguous : Unambiguous text (some shown) remark)
    (rendered : render text (some shown) remark = .ok marked) :
    side sign none marked =
      text.take shown.offset ++
        ((if deletionSign = sign then text.slice shown.offset shown.stop else []) ++
          ((if insertionSign = sign then shown.text else []) ++
            ((if commentSign = sign then remark.getD [] else []) ++ text.drop shown.stop))) := by
  have braceless := unambiguous.text_braceless
  have frontBraceless := braceless.of_subset (List.take_subset shown.offset text)
  have restBraceless := braceless.of_subset (List.drop_subset shown.stop text)
  have targetBraceless : Braceless (text.slice shown.offset shown.stop) :=
    braceless.of_subset
      (List.Subset.trans (List.take_subset _ _) (List.drop_subset shown.offset text))
  simp only [render, unambiguous.fits shown rfl, ↓reduceIte, Except.ok.injEq] at rendered
  rw [← rendered, List.append_assoc, side_append frontBraceless.1,
    side_change signLength targetBraceless (unambiguous.edit_braceless shown rfl)
      unambiguous.remark_getD,
    side_of_braceless restBraceless]

/-- From a marked-up text both versions are read back. -/
theorem exists_render (unambiguous : Unambiguous text edit remark) :
    ∃ marked,
      render text edit remark = .ok marked ∧
        original marked = text ∧
        revise text edit = .ok (revised marked) := by
  cases edit with
  | none =>
      have same (sign : Text CodePoint) : side sign none text = text :=
        side_of_braceless unambiguous.text_braceless
      exact ⟨text, rfl, same _, congrArg Except.ok (same _).symm⟩
  | some shown =>
      have fits := unambiguous.fits shown rfl
      obtain ⟨marked, rendered⟩ : ∃ marked, render text (some shown) remark = .ok marked :=
        ⟨_, if_pos fits⟩
      refine ⟨marked, rendered, ?_, ?_⟩
      · have whole :
            text.take shown.offset ++
                (text.slice shown.offset shown.stop ++ text.drop shown.stop) = text :=
          text.take_append_slice_append_drop (Nat.le_add_right _ _)
        rw [original, side_render deletionSign rfl unambiguous rendered]
        simpa [deletionSign, insertionSign, commentSign] using whole
      · rw [revised, side_render insertionSign rfl unambiguous rendered]
        have applied := Text.apply_eq_ok_iff.mpr ⟨fits, rfl⟩
        simpa [deletionSign, insertionSign, commentSign, revise, Text.replaceRange, Edit.stop]
          using applied

/-! ## Halves of surrogate pairs -/

/-- The marks are characters, so that a block holds no other halves than its content. -/
@[simp]
theorem half_mem_block_iff
    (distance : Fin 0x800)
    (opening closing : String)
    (content : Text CodePoint) :
    .half distance ∈ block opening closing content ↔ .half distance ∈ content := by
  unfold block
  split
  · next empty =>
      rw [empty]
  · simp

/-- A half that is shown is in the text, in the text of the edit or in the remark. -/
theorem half_of_mem_render
    {distance : Fin 0x800}
    {marked : Text CodePoint}
    (rendered : render text edit remark = .ok marked)
    (member : .half distance ∈ marked) :
    .half distance ∈ text ∨
      (∃ shown, edit = some shown ∧ .half distance ∈ shown.text) ∨
      .half distance ∈ remark.getD [] := by
  cases edit with
  | none =>
      cases rendered
      exact Or.inl member
  | some shown =>
      simp only [render] at rendered
      split at rendered
      · cases rendered
        simp only [change, deletion, insertion, comment, List.mem_append, half_mem_block_iff]
          at member
        rcases member with (inFront | (inTarget | inEdit) | inRemark) | behind
        · exact Or.inl (List.mem_of_mem_take inFront)
        · exact Or.inl (List.mem_of_mem_drop (List.mem_of_mem_take inTarget))
        · exact Or.inr (Or.inl ⟨shown, rfl, inEdit⟩)
        · exact Or.inr (Or.inr inRemark)
        · exact Or.inl (List.mem_of_mem_drop behind)
      · cases rendered

end Marks

/--
A rendering determines both versions of a text, if braces stand in it for marks only: where two
texts, each with an edit that fits it or with none and with or without a remark, are rendered
alike, they are the same before their edits and also behind them.
-/
theorem rendering_determines_both_versions
    {text otherText : Text CodePoint}
    {edit otherEdit : Option (Edit CodePoint)}
    {remark otherRemark : Option (Text CodePoint)}
    (unambiguous : Marks.Unambiguous text edit remark)
    (otherUnambiguous : Marks.Unambiguous otherText otherEdit otherRemark)
    (same :
      Marks.render text edit remark = Marks.render otherText otherEdit otherRemark) :
    text = otherText ∧
      ∃ result,
        Marks.revise text edit = .ok result ∧ Marks.revise otherText otherEdit = .ok result := by
  obtain ⟨marked, rendered, isText, isRevised⟩ := Marks.exists_render unambiguous
  obtain ⟨otherMarked, otherRendered, isOtherText, isOtherRevised⟩ :=
    Marks.exists_render otherUnambiguous
  rw [rendered, otherRendered, Except.ok.injEq] at same
  subst same
  exact ⟨isText.symm.trans isOtherText, Marks.revised marked, isRevised, isOtherRevised⟩

/-- Without an edit the remark is not shown, and an edit that does nothing is not shown either. -/
theorem rendering_determines_both_versions_signs :
    let text : Text CodePoint := .half 0 :: Text.points ['a', '-', '-', '+', '>', 'b']
    let edit : Edit CodePoint := ⟨3, 0, []⟩
    let remark : Text CodePoint := Text.points ['+', '?']
    Marks.Unambiguous text none (some remark) ∧
      Marks.Unambiguous text (some edit) none ∧
      Marks.render text none (some remark) = Marks.render text (some edit) none ∧
      Marks.render text (some edit) none = .ok text ∧
      Marks.revise text none = .ok text ∧
      Marks.revise text (some edit) = .ok text := by
  intro text edit remark
  have unambiguous : Marks.Unambiguous text none (some remark) :=
    ⟨by decide, by decide, by decide, by decide⟩
  have otherUnambiguous : Marks.Unambiguous text (some edit) none :=
    ⟨by decide, by decide, by decide, by decide⟩
  have same : Marks.render text none (some remark) = Marks.render text (some edit) none :=
    rfl
  obtain ⟨_, result, revised, otherRevised⟩ :=
    rendering_determines_both_versions unambiguous otherUnambiguous same
  obtain rfl : text = result := Except.ok.inj revised
  exact ⟨unambiguous, otherUnambiguous, same, rfl, revised, otherRevised⟩

end Splice
