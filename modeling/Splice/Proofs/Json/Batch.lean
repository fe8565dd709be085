import Mathlib.Data.List.TakeWhile
import Splice.Edit.Batch
import Splice.Proofs.Json.Scalars

namespace Splice

/-!
# Reading batches that were written

A batch is written as an array of objects, with line breaks and indentation.  If the texts of
its edits consist of characters, reading it gives one object for each edit, with the three
members of the edit in order, and the batch of this document is the batch that was written.
Halves of surrogate pairs are no part of this, since two of them side by side would be read as
one character.
-/

/-- An edit as a value with three members. -/
def Edit.toJson (edit : Edit CodePoint) : Json :=
  .object
    [(Text.points "offset".toList, .integer edit.offset),
      (Text.points "length".toList, .integer edit.length),
      (Text.points "text".toList, .string edit.text)]

/-- An edit whose numbers have no more digits than the limit allows. -/
structure Edit.Readable (limit : Option Nat) (edit : Edit) : Prop where
  offset : Json.Readable limit edit.offset
  length : Json.Readable limit edit.length

namespace Json

/-! ## Blanks -/

theorem skipBlanks_indentation (width : Nat) (rest : Text) :
    skipBlanks (indentation width ++ rest) = skipBlanks rest :=
  List.dropWhile_append_of_pos fun c member => by
    rw [(List.mem_replicate.mp member).2]
    rfl

theorem skipBlanks_lineFeed (rest : Text) : skipBlanks ('\n' :: rest) = skipBlanks rest :=
  rfl

theorem skipBlanks_space (rest : Text) : skipBlanks (' ' :: rest) = skipBlanks rest :=
  rfl

theorem skipBlanks_quote (text : Text CodePoint) (rest : Text) :
    skipBlanks (quote text ++ rest) = quote text ++ rest :=
  rfl

theorem skipBlanks_digits (n : Nat) (rest : Text) :
    skipBlanks (digits n ++ rest) = digits n ++ rest := by
  obtain ⟨first, others, digits_eq, isDigit⟩ := exists_digits_eq_cons n
  have noBlank : isBlank first = false := by
    unfold isBlank
    by_contra blank
    simp only [Bool.not_eq_false, Bool.or_eq_true, beq_iff_eq] at blank
    rcases blank with ((rfl | rfl) | rfl) | rfl <;> cases isDigit
  simp [digits_eq, skipBlanks, noBlank]

/-! ## Members -/

variable {limit : Option Nat} {fuel room : Nat} {reversed : Members} {name : String}
variable {written rest : Text} {item : Json}

theorem skipBlanks_memberLine (width : Nat) :
    skipBlanks (memberLine width name written ++ rest) =
      '"' ::
        ((Text.points name.toList).flatMap escape ++ '"' :: ':' :: ' ' :: (written ++ rest)) := by
  rw [memberLine, List.append_assoc, List.append_assoc, List.append_assoc,
    skipBlanks_indentation, skipBlanks_quote]
  simp [quote]

/-- A member is read with its name and its value; the mark behind it tells how to go on. -/
theorem members_memberLine
    {result : Except ReadFault (Json × Text)}
    (width : Nat)
    (starts : skipBlanks (written ++ rest) = written ++ rest)
    (read : value limit fuel room (written ++ rest) = .ok (item, rest))
    (goesOn :
      (∃ later,
        skipBlanks rest = ',' :: later ∧
          members limit fuel room ((Text.points name.toList, item) :: reversed)
              (skipBlanks later) = result) ∨
        ∃ later,
          skipBlanks rest = '\x7d' :: later ∧
            .ok (.object ((Text.points name.toList, item) :: reversed).reverse, later) = result) :
    members limit (fuel + 1) room reversed
        (skipBlanks (memberLine width name written ++ rest)) =
      result := by
  have body := stringBody_flatMap_escape [] name.toList (':' :: ' ' :: (written ++ rest))
  have colon : skipBlanks (':' :: ' ' :: (written ++ rest)) = ':' :: ' ' :: (written ++ rest) :=
    rfl
  rw [skipBlanks_memberLine, members, body]
  simp only [orMalformed, ok_bind, List.reverse_nil, List.nil_append, colon,
    skipBlanks_space, starts, read]
  rcases goesOn with ⟨later, comma, next⟩ | ⟨later, closing, last⟩
  · simp only [comma, next]
  · simp only [closing, last]

/-- The members of an edit are read as the three members of its value. -/
theorem members_edit
    {edit : Edit}
    (readable : edit.Readable limit)
    (fuel room width : Nat)
    (rest : Text) :
    members limit (fuel + 4) room []
        (skipBlanks
          (memberLine (width + 2) "offset" (digits edit.offset) ++ ',' :: '\n' ::
            (memberLine (width + 2) "length" (digits edit.length) ++ ',' :: '\n' ::
              (memberLine (width + 2) "text" (quote edit.text.points) ++
                '\n' :: (indentation width ++ '\x7d' :: rest))))) =
      .ok (edit.points.toJson, rest) := by
  have closing :
      skipBlanks ('\n' :: (indentation width ++ '\x7d' :: rest)) = '\x7d' :: rest := by
    rw [skipBlanks_lineFeed, skipBlanks_indentation]
    rfl
  have offsetRead := value_digits readable.offset (fuel + 2) room
  have lengthRead := value_digits readable.length (fuel + 1) room
  have textRead := value_quote limit fuel room edit.text
  refine members_memberLine _ (skipBlanks_digits _ _) (offsetRead _) (.inl ⟨_, rfl, ?_⟩)
  refine members_memberLine _ (skipBlanks_digits _ _) (lengthRead _) (.inl ⟨_, rfl, ?_⟩)
  exact members_memberLine _ (skipBlanks_quote _ _) (textRead _) (.inr ⟨rest, closing, rfl⟩)

/-! ## Edits and batches -/

theorem skipBlanks_writeEdit (width : Nat) (edit : Edit CodePoint) (rest : Text) :
    skipBlanks (writeEdit width edit ++ rest) = writeEdit width edit ++ rest :=
  rfl

/-- An edit that was written is read as its value. -/
theorem value_writeEdit
    {edit : Edit}
    (readable : edit.Readable limit)
    (fuel room width : Nat)
    (rest : Text) :
    value limit (fuel + 5) (room + 1) (writeEdit width edit.points ++ rest) =
      .ok (edit.points.toJson, rest) := by
  have read := members_edit readable fuel room width rest
  have opened :
      writeEdit width edit.points ++ rest =
        '\x7b' :: '\n' ::
          (memberLine (width + 2) "offset" (digits edit.offset) ++ ',' :: '\n' ::
            (memberLine (width + 2) "length" (digits edit.length) ++ ',' :: '\n' ::
              (memberLine (width + 2) "text" (quote edit.text.points) ++
                '\n' :: (indentation width ++ '\x7d' :: rest)))) := by
    simp [writeEdit, Edit.points]
  rw [opened, value]
  simp only [skipBlanks_lineFeed]
  split
  · next closed =>
      rw [skipBlanks_memberLine] at closed
      cases closed
  · exact read

/-- The edits of a batch as they stand between the brackets. -/
def writtenItems (batch : List (Edit CodePoint)) : Text :=
  [',', '\n'].intercalate (batch.map fun edit => indentation 2 ++ writeEdit 2 edit)

theorem writtenItems_singleton (edit : Edit CodePoint) :
    writtenItems [edit] = indentation 2 ++ writeEdit 2 edit :=
  List.intercalate_singleton

theorem writtenItems_cons_cons (first second : Edit CodePoint) (others : List (Edit CodePoint)) :
    writtenItems (first :: second :: others) =
      indentation 2 ++ (writeEdit 2 first ++ ',' :: '\n' :: writtenItems (second :: others)) := by
  simp [writtenItems, List.intercalate_cons_cons]

theorem length_le_writtenItems (first : Edit CodePoint) (others : List (Edit CodePoint)) :
    others.length ≤ (writtenItems (first :: others)).length := by
  induction others generalizing first with
  | nil =>
      exact Nat.zero_le _
  | cons second others inductionHypothesis =>
      have shorter := inductionHypothesis second
      rw [writtenItems_cons_cons]
      simp only [List.length_append, List.length_cons]
      omega

/-- The edits of a batch are read as the values that follow those read before. -/
theorem items_writtenItems
    {first : Edit}
    {others : List Edit}
    (readable : ∀ edit ∈ first :: others, edit.Readable limit)
    (fuel room : Nat)
    (reversed : List Json)
    (rest : Text) :
    items limit (fuel + others.length + 6) (room + 1) reversed
        (skipBlanks (writtenItems ((first :: others).map Edit.points) ++ '\n' :: ']' :: rest)) =
      .ok (.array (reversed.reverse ++ (first :: others).map (·.points.toJson)), rest) := by
  induction others generalizing first reversed with
  | nil =>
      have firstReadable := readable first List.mem_cons_self
      have closing : skipBlanks ('\n' :: ']' :: rest) = ']' :: rest := rfl
      rw [List.map_singleton, writtenItems_singleton, List.append_assoc, skipBlanks_indentation,
        skipBlanks_writeEdit, items, value_writeEdit firstReadable, ok_bind]
      simp [closing]
  | cons second others inductionHypothesis =>
      obtain ⟨firstReadable, othersReadable⟩ := List.forall_mem_cons.mp readable
      have comma (later : Text) : skipBlanks (',' :: '\n' :: later) = ',' :: '\n' :: later :=
        rfl
      rw [List.map_cons, List.map_cons, writtenItems_cons_cons, List.append_assoc,
        List.append_assoc, skipBlanks_indentation, skipBlanks_writeEdit, items,
        value_writeEdit firstReadable, ok_bind]
      simp only [List.cons_append, comma, skipBlanks_lineFeed]
      -- One unit of fuel is spent on the item, and there is one edit less to read.
      refine (inductionHypothesis othersReadable (first.points.toJson :: reversed)).trans ?_
      simp

theorem head?_skipBlanks_writtenItems
    (first : Edit CodePoint)
    (others : List (Edit CodePoint))
    (rest : Text) :
    (skipBlanks (writtenItems (first :: others) ++ rest)).head? = some '\x7b' := by
  cases others with
  | nil =>
      rw [writtenItems_singleton, List.append_assoc, skipBlanks_indentation, skipBlanks_writeEdit]
      rfl
  | cons second others =>
      rw [writtenItems_cons_cons, List.append_assoc, List.append_assoc,
        skipBlanks_indentation, skipBlanks_writeEdit]
      rfl

variable {batch : List Edit}

/-- A batch that was written is read as the values of its edits. -/
theorem value_writeBatch
    (readable : ∀ edit ∈ batch, edit.Readable limit)
    (fuel room : Nat)
    (rest : Text) :
    value limit (fuel + batch.length + 6) (room + 2)
        (writeBatch (batch.map Edit.points) ++ rest) =
      .ok (.array (batch.map (·.points.toJson)), rest) := by
  cases batch with
  | nil =>
      rfl
  | cons first others =>
      have opened :
          writeBatch ((first :: others).map Edit.points) ++ rest =
            '[' :: '\n' ::
              (writtenItems ((first :: others).map Edit.points) ++ '\n' :: ']' :: rest) := by
        simp [writeBatch, writtenItems]
      rw [opened, value]
      simp only [skipBlanks_lineFeed]
      split
      · next closed =>
          have front :=
            head?_skipBlanks_writtenItems first.points (others.map Edit.points)
              ('\n' :: ']' :: rest)
          rw [← List.map_cons, closed] at front
          cases front
      · exact items_writtenItems readable fuel room [] rest

theorem length_lt_writeBatch (batch : List (Edit CodePoint)) :
    batch.length + 1 < (writeBatch batch).length := by
  cases batch with
  | nil =>
      decide
  | cons first others =>
      have shorter := length_le_writtenItems first others
      simp only [writeBatch, writtenItems, List.cons_ne_nil, ↓reduceIte, List.length_append,
        List.length_cons, List.length_nil] at shorter ⊢
      omega

/-- The text of a batch holds the values of the edits, also with blanks behind it. -/
theorem ofText_writeBatch_append
    {blanks : Text}
    (readable : ∀ edit ∈ batch, edit.Readable limit)
    (areBlanks : blanks.all isBlank = true) :
    ofText limit (writeBatch (batch.map Edit.points) ++ blanks) =
      .ok (.array (batch.map (·.points.toJson))) := by
  have enough :
      batch.length + 6 ≤ 2 * (writeBatch (batch.map Edit.points) ++ blanks).length + 2 := by
    have longer := length_lt_writeBatch (batch.map Edit.points)
    rw [List.length_map] at longer
    rw [List.length_append]
    omega
  obtain ⟨fuel, spared⟩ := Nat.exists_eq_add_of_le' enough
  have starts :
      skipBlanks (writeBatch (batch.map Edit.points) ++ blanks) =
        writeBatch (batch.map Edit.points) ++ blanks := by
    cases batch <;> rfl
  have ends : skipBlanks blanks = [] :=
    List.dropWhile_eq_nil_iff.mpr (List.all_eq_true.mp areBlanks)
  have room : mostNested = 983 + 2 := rfl
  rw [ofText, starts, spared, ← Nat.add_assoc, room, value_writeBatch readable, ok_bind]
  simp only [ends, ↓reduceIte]

end Json

theorem Field.count_natCast (n : Nat) : count (.integer n) = .ok n := by
  simp [count, integer, ok_bind]

namespace Edit

/-- The validator takes counts and texts as they are. -/
def Validator.Faithful (validator : Validator) : Prop :=
  ∀ edit : Edit CodePoint,
    validator (.integer edit.offset) (.integer edit.length) (.string edit.text) = .ok edit

/-- Fields that hold counts and a text are read as they are. -/
theorem faithful_validate : Validator.Faithful validate := by
  intro edit
  simp only [validate, ofFields, Field.required, Field.optional, Field.count_natCast, Field.text]

variable {validator : Validator}

/-- The value of an edit describes the edit. -/
theorem ofItem_toJson
    (faithful : validator.Faithful)
    (edit : Edit CodePoint) :
    ofItem validator edit.toJson = .ok edit :=
  congrArg (Except.mapError BatchError.faults) (faithful edit)

/-- The values of a batch describe the batch. -/
theorem batchOfJson_map_toJson
    (faithful : validator.Faithful)
    (batch : List (Edit CodePoint)) :
    batchOfJson validator (.array (batch.map toJson)) = .ok batch := by
  change (batch.map toJson).mapM (ofItem validator) = .ok batch
  induction batch with
  | nil =>
      rfl
  | cons edit rest inductionHypothesis =>
      rw [List.map_cons, List.mapM_cons, ofItem_toJson faithful, ok_bind, inductionHypothesis,
        ok_bind]
      rfl

end Edit

end Splice
