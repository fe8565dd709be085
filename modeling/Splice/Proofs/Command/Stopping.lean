import Splice.Proofs.Command.Work
import Splice.Proofs.Marks
import Splice.Proofs.Merge.Material

namespace Splice

/-!
# Programs that stop

A command finds out nearly all that may stop it before it delivers anything.  Reading, comparing
and merging print and save nothing, whether they come to an end or not.  Behind that only the
encoding of a text can fail, and by then its file has been created.  The text holds half of a
surrogate pair in this case, and only an edit that is shown in the text can have brought it in.
So a program that does not end well has printed nothing, and it has left every file as it was or
the file for such a marked-up text empty.
-/

/-- Between the two transcripts nothing has been printed and nothing saved. -/
structure Transcript.SameDeliveries (before after : Transcript) : Prop where
  printed : after.printed = before.printed
  saved : after.saved = before.saved

namespace Transcript.SameDeliveries

theorem refl (transcript : Transcript) : transcript.SameDeliveries transcript :=
  ⟨rfl, rfl⟩

theorem trans
    {before between after : Transcript}
    (earlier : before.SameDeliveries between)
    (later : between.SameDeliveries after) :
    before.SameDeliveries after :=
  ⟨later.printed.trans earlier.printed, later.saved.trans earlier.saved⟩

end Transcript.SameDeliveries

/-- Between the two transcripts nothing has been printed, and only an empty file was saved. -/
structure Transcript.LeavesEmpty (before after : Transcript) (path : Path) : Prop where
  printed : after.printed = before.printed
  saved : after.saved = before.saved.push (path, [])

theorem Transcript.SameDeliveries.trans_leavesEmpty
    {before between after : Transcript}
    {path : Path}
    (earlier : before.SameDeliveries between)
    (later : between.LeavesEmpty after path) :
    before.LeavesEmpty after path :=
  ⟨later.printed.trans earlier.printed, by rw [later.saved, earlier.saved]⟩

namespace Work

variable {Value Result : Type}

/-- Whether the work stops or not, it prints and saves nothing. -/
def DeliversNothing (work : Work Value) : Prop :=
  ∀ before : Transcript, before.SameDeliveries (work.run.run before).2

/-- The work does not stop. -/
def Finishes (work : Work Value) : Prop :=
  ∀ before, ∃ value after, work.run.run before = (.ok value, after)

/-- The value is one that the work may return. -/
def MayReturn (work : Work Value) (value : Value) : Prop :=
  ∃ before after, work.run.run before = (.ok value, after)

/--
The work delivers only when nothing can stop it any more, except that it may crash on a text
that cannot be encoded and leave an empty file instead, under one of the paths of `emptied`.
-/
def DeliversLast (emptied : Path → Prop) (work : Work Value) : Prop :=
  ∀ before stop after,
    work.run.run before = (.error stop, after) →
      before.SameDeliveries after ∨
        ∃ path, emptied path ∧ stop = .crash .notEncodable ∧ before.LeavesEmpty after path

variable {work : Work Value} {next : Value → Work Result} {emptied : Path → Prop}

theorem DeliversNothing.deliversLast
    (nothing : work.DeliversNothing) :
    work.DeliversLast emptied := by
  intro before stop after stopped
  have same := nothing before
  rw [stopped] at same
  exact Or.inl same

theorem Finishes.deliversLast (finishes : work.Finishes) : work.DeliversLast emptied := by
  intro before stop after stopped
  obtain ⟨value, other, ended⟩ := finishes before
  rw [ended] at stopped
  cases stopped

/-! ## Work in turn -/

theorem DeliversNothing.bind
    (nothing : work.DeliversNothing)
    (nextNothing : ∀ value, (next value).DeliversNothing) :
    (work >>= next).DeliversNothing := by
  intro before
  have same := nothing before
  rcases ran : work.run.run before with ⟨ending, between⟩
  rw [ran] at same
  cases ending with
  | error stop =>
      rw [run_bind_of_error ran]
      exact same
  | ok value =>
      rw [run_bind_of_ok ran]
      exact same.trans (nextNothing value between)

theorem Finishes.bind
    (finishes : work.Finishes)
    (nextFinishes : ∀ value, (next value).Finishes) :
    (work >>= next).Finishes := by
  intro before
  obtain ⟨value, between, ended⟩ := finishes before
  rw [run_bind_of_ok ended]
  exact nextFinishes value between

/-- Work that delivers nothing may come before any work that delivers last. -/
theorem DeliversNothing.bind_deliversLast
    (nothing : work.DeliversNothing)
    (nextLast : ∀ value, work.MayReturn value → (next value).DeliversLast emptied) :
    (work >>= next).DeliversLast emptied := by
  intro before stop after stopped
  have same := nothing before
  rcases ran : work.run.run before with ⟨ending, between⟩
  rw [ran] at same
  cases ending with
  | error earlier =>
      rw [run_bind_of_error ran] at stopped
      cases stopped
      exact Or.inl same
  | ok value =>
      rw [run_bind_of_ok ran] at stopped
      rcases nextLast value ⟨before, between, ran⟩ between stop after stopped with
        nothingLater | ⟨path, isEmptied, crashed, leavesEmpty⟩
      · exact Or.inl (same.trans nothingLater)
      · exact Or.inr ⟨path, isEmptied, crashed, same.trans_leavesEmpty leavesEmpty⟩

/-- Behind work that delivers last there may be work that does not stop. -/
theorem DeliversLast.bind_finishes
    (last : work.DeliversLast emptied)
    (nextFinishes : ∀ value, (next value).Finishes) :
    (work >>= next).DeliversLast emptied := by
  intro before stop after stopped
  rcases ran : work.run.run before with ⟨ending, between⟩
  cases ending with
  | error earlier =>
      rw [run_bind_of_error ran] at stopped
      cases stopped
      exact last before stop after ran
  | ok value =>
      obtain ⟨result, final, ended⟩ := nextFinishes value between
      rw [run_bind_of_ok ran, ended] at stopped
      cases stopped

/-! ## Single effects -/

theorem deliversNothing_pure (value : Value) : DeliversNothing (pure value) :=
  Transcript.SameDeliveries.refl

theorem deliversNothing_throw (stop : Stop) : DeliversNothing (throw stop : Work Value) :=
  Transcript.SameDeliveries.refl

theorem deliversNothing_notice (text : Text) : (notice text).DeliversNothing :=
  fun _ => ⟨rfl, rfl⟩

theorem deliversNothing_report (records : List LogRecord) : (report records).DeliversNothing :=
  fun _ => ⟨rfl, rfl⟩

theorem deliversNothing_crash (cause : Crash) : DeliversNothing (crash cause : Work Value) :=
  deliversNothing_throw (.crash cause)

theorem deliversNothing_fail (text : Text) : DeliversNothing (fail text : Work Value) :=
  (deliversNothing_notice text).bind fun _ => deliversNothing_throw .failure

theorem finishes_pure (value : Value) : Finishes (pure value) :=
  fun before => ⟨value, before, rfl⟩

theorem finishes_notice (text : Text) : (notice text).Finishes :=
  fun _ => ⟨_, _, rfl⟩

theorem finishes_print (text : Text) : (print text).Finishes :=
  fun _ => ⟨_, _, rfl⟩

/-- Work for each item of a list does not stop if the work for a single item does not. -/
theorem finishes_forM
    {Item : Type}
    {act : Item → Work Unit}
    (actFinishes : ∀ item, (act item).Finishes)
    (items : List Item) :
    (items.forM act).Finishes := by
  induction items with
  | nil =>
      exact finishes_pure ()
  | cons item rest inductionHypothesis =>
      exact (actFinishes item).bind fun _ => inductionHypothesis

theorem deliversNothing_encodable (text : Text CodePoint) : (encodable text).DeliversNothing := by
  unfold encodable
  split
  · exact deliversNothing_pure _
  · exact deliversNothing_crash .notEncodable

theorem deliversNothing_asked (answer : Except RangeError Value) :
    (asked answer).DeliversNothing := by
  cases answer with
  | ok value =>
      exact deliversNothing_pure value
  | error error =>
      exact deliversNothing_crash (.outsideText error)

/-! ## Reading -/

variable (host : Host) (disk : Disk)

theorem deliversNothing_pathOf (operand : Operand) : (pathOf operand).DeliversNothing := by
  cases operand with
  | none =>
      exact deliversNothing_crash .noOperand
  | some path =>
      exact deliversNothing_pure path

theorem deliversNothing_readText (operand : Operand) :
    (readText disk operand).DeliversNothing := by
  refine (deliversNothing_pathOf operand).bind fun path => ?_
  split
  · split
    · exact deliversNothing_pure _
    · exact deliversNothing_crash .notUtf8
  · exact deliversNothing_crash .isDirectory
  · exact deliversNothing_crash .pathTooLong
  · exact deliversNothing_fail _

theorem deliversNothing_readBatch (operand : Operand) :
    (readBatch host disk operand).DeliversNothing := by
  unfold readBatch
  split
  · exact deliversNothing_pure _
  · exact deliversNothing_crash .notAnEdit
  · exact deliversNothing_crash .nestedTooDeep
  · exact deliversNothing_fail _

theorem deliversNothing_demandEdits (path : Path) : (demandEdits disk path).DeliversNothing := by
  unfold demandEdits
  split
  · exact deliversNothing_pure ()
  · exact deliversNothing_pure ()
  · exact deliversNothing_crash .pathTooLong
  · exact deliversNothing_fail _

/-- The batch that is read is the one that the file holds. -/
theorem batchOf?_of_mayReturn
    {operand : Operand}
    {batch : List (Edit CodePoint)}
    (mayReturn : (readBatch host disk operand).MayReturn batch) :
    batchOf? host disk operand = .ok batch := by
  obtain ⟨before, after, ran⟩ := mayReturn
  unfold readBatch at ran
  split at ran
  · next held =>
      cases ran
      exact held
  · cases ran
  · cases ran
  · cases ran

/-! ## Merging -/

section

variable {α : Type}

theorem deliversNothing_mismatch (error : RangeError) :
    DeliversNothing (mismatch error : Work Value) :=
  (deliversNothing_report _).bind fun _ => deliversNothing_fail _

theorem deliversNothing_reportMerged
    (state : String)
    (batch : List (Edit α))
    (result : Except RangeError (Option (Edit α))) :
    (reportMerged state batch result).DeliversNothing := by
  cases result with
  | error error =>
      exact deliversNothing_mismatch error
  | ok merged =>
      exact (deliversNothing_report _).bind fun _ => deliversNothing_pure merged

variable (source : Text α) (batch : List (Edit α))

theorem deliversNothing_mergeReported : (mergeReported source batch).DeliversNothing :=
  (deliversNothing_report _).bind fun _ => deliversNothing_reportMerged _ _ _

theorem deliversNothing_applyAndMerge : (applyAndMerge source batch).DeliversNothing := by
  refine (deliversNothing_report _).bind fun _ => ?_
  cases source.applyAll batch with
  | error error =>
      exact deliversNothing_mismatch error
  | ok result =>
      exact (deliversNothing_report _).bind fun _ => deliversNothing_reportMerged _ _ _

theorem deliversNothing_mergeBatch (processed : Bool) :
    (mergeBatch processed source batch).DeliversNothing := by
  cases processed with
  | false =>
      exact deliversNothing_mergeReported source batch
  | true =>
      exact deliversNothing_applyAndMerge source batch

variable {source batch}

/-- The edit that is reported is the one that the batch was merged into. -/
theorem mergeForward_of_mayReturn
    {merged : Option (Edit α)}
    (mayReturn : (mergeReported source batch).MayReturn merged) :
    mergeForward source batch = .ok merged := by
  obtain ⟨before, after, ran⟩ := mayReturn
  rw [mergeReported] at ran
  cases merges : mergeForward source batch with
  | error error =>
      rw [merges] at ran
      cases ran
  | ok answer =>
      rw [merges] at ran
      cases ran
      rfl

end

theorem deliversNothing_shownEdits
    (source : Text)
    (batch : List Edit)
    (merge : Bool) :
    (shownEdits merge source batch).DeliversNothing := by
  cases merge with
  | false =>
      exact deliversNothing_pure batch
  | true =>
      have merged := deliversNothing_mergeReported source batch
      rw [shownEdits, if_pos rfl, map_eq_pure_bind]
      exact merged.bind fun _ => deliversNothing_pure _

/-! ## Delivering -/

/-- An output is refused before anything happens to it, or there is an empty file then. -/
theorem create_cases
    (path : Path)
    (before : Transcript) :
    (∃ cause, (create disk path).run.run before = (.error (.crash cause), before)) ∨
      (create disk path).run.run before =
        (.ok (), { before with saved := before.saved.push (path, []) }) := by
  unfold create
  split
  · exact Or.inl ⟨.isDirectory, rfl⟩
  · exact Or.inl ⟨.noDirectory, rfl⟩
  · exact Or.inl ⟨.notADirectory, rfl⟩
  · exact Or.inl ⟨.pathTooLong, rfl⟩
  · exact Or.inl ⟨.unusablePath, rfl⟩
  · exact Or.inr rfl

/-- What is delivered may leave a file empty if it cannot be encoded, and only then. -/
theorem deliversLast_deliver
    {content : Text CodePoint}
    {output : Option Path}
    (mayEmpty : ∀ path, output = some path → content.chars? = none → emptied path) :
    (deliver disk content output).DeliversLast emptied := by
  cases output with
  | none =>
      exact (deliversNothing_encodable content).bind_deliversLast fun _ _ =>
        (finishes_print _).deliversLast
  | some path =>
      intro before stop after stopped
      rw [deliver] at stopped
      rcases create_cases disk path before with ⟨cause, refused⟩ | created
      · rw [run_bind_of_error refused] at stopped
        cases stopped
        exact Or.inl (.refl before)
      · rw [run_bind_of_ok created, encodable] at stopped
        cases encoded : content.chars? with
        | none =>
            rw [encoded] at stopped
            cases stopped
            exact Or.inr ⟨path, mayEmpty path rfl encoded, rfl, rfl, rfl⟩
        | some characters =>
            rw [encoded] at stopped
            cases stopped

theorem deliversLast_deliver_points (content : Text) (output : Option Path) :
    (deliver disk content.points output).DeliversLast emptied := by
  refine deliversLast_deliver disk fun path _ notEncodable => ?_
  rw [Text.chars?_points] at notEncodable
  cases notEncodable

/-! ## Commands -/

theorem deliversLast_merge
    (source edits : Operand)
    (processed : Bool)
    (output : Option Path) :
    (merge host disk source edits processed output).DeliversLast emptied := by
  refine (deliversNothing_readText disk source).bind_deliversLast fun text _ => ?_
  refine (deliversNothing_readBatch host disk edits).bind_deliversLast fun batch _ => ?_
  refine (deliversNothing_mergeBatch text.points batch processed).bind_deliversLast
    fun merged _ => ?_
  cases merged with
  | none =>
      exact (deliversNothing_notice _).bind_deliversLast fun _ _ =>
        deliversLast_deliver_points disk _ _
  | some edit =>
      exact (deliversNothing_notice _).bind_deliversLast fun _ _ =>
        deliversLast_deliver_points disk _ _

theorem deliversLast_diff
    (source target : Operand)
    (json reverse merge : Bool)
    (granularity : Option Granularity) :
    (diff host disk source target json reverse merge granularity).DeliversLast emptied := by
  refine (deliversNothing_readText disk source).bind_deliversLast fun sourceText _ => ?_
  refine (deliversNothing_readText disk target).bind_deliversLast fun targetText _ => ?_
  cases granularity with
  | none =>
      exact (deliversNothing_crash .noGranularity).deliversLast
  | some granularity =>
      simp only
      split
      · exact (deliversNothing_crash _).deliversLast
      · next batch _ =>
          refine (deliversNothing_report _).bind_deliversLast fun _ _ => ?_
          refine (deliversNothing_shownEdits sourceText batch merge).bind_deliversLast
            fun shown _ => ?_
          cases json with
          | true =>
              exact (finishes_print _).deliversLast
          | false =>
              refine (deliversNothing_notice _).bind_deliversLast fun _ _ => ?_
              exact (finishes_forM (fun _ => finishes_print _) shown).deliversLast

/-- A half that is shown with a text of characters was brought in by an edit of the batch. -/
theorem exists_half_of_render
    {text : Text}
    {batch : List (Edit CodePoint)}
    {merged : Option (Edit CodePoint)}
    {comment : Option Text}
    {shown : Text CodePoint}
    (merges : mergeForward text.points batch = .ok merged)
    (rendered : Marks.render text.points merged (comment.map Text.points) = .ok shown)
    (notEncodable : shown.chars? = none) :
    ∃ edit ∈ batch, ∃ distance, .half distance ∈ edit.text := by
  obtain ⟨distance, member⟩ := Text.exists_half_of_chars?_eq_none notEncodable
  rcases Marks.half_of_mem_render rendered member with inText | ⟨edit, rfl, inEdit⟩ | inRemark
  · exact (Text.half_notMem_points distance text inText).elim
  · rcases List.mem_append.mp (text_subset_of_mergeForward merges inEdit) with inText | inBatch
    · exact (Text.half_notMem_points distance text inText).elim
    · obtain ⟨brought, isOfBatch, inBrought⟩ := List.mem_flatMap.mp inBatch
      exact ⟨brought, isOfBatch, distance, inBrought⟩
  · cases comment with
    | none =>
        cases inRemark
    | some remark =>
        exact (Text.half_notMem_points distance remark inRemark).elim

end Work

/--
The command is to show edits in the file under the path, and the text of one of the edits holds
half of a surrogate pair.
-/
def Command.ShowsHalf
    (host : Host)
    (disk : Disk)
    (command : Command)
    (path : Path) :
    Prop :=
  ∃ source edits comment batch,
    command = .markup source edits comment (some path) ∧
      Work.batchOf? host disk edits = .ok batch ∧
      ∃ edit ∈ batch, ∃ distance, .half distance ∈ edit.text

namespace Work

variable (host : Host) (disk : Disk)

theorem deliversLast_markup
    (source edits : Operand)
    (comment : Option Text)
    (output : Option Path) :
    (markup host disk source edits comment output).DeliversLast
      (Command.ShowsHalf host disk (.markup source edits comment output)) := by
  refine (deliversNothing_readText disk source).bind_deliversLast fun text _ => ?_
  refine (deliversNothing_pathOf edits).bind_deliversLast fun path _ => ?_
  refine (deliversNothing_demandEdits disk path).bind_deliversLast fun _ _ => ?_
  refine (deliversNothing_readBatch host disk edits).bind_deliversLast fun batch isRead => ?_
  refine (deliversNothing_mergeReported text.points batch).bind_deliversLast
    fun merged isMerged => ?_
  have held := batchOf?_of_mayReturn host disk isRead
  have merges := mergeForward_of_mayReturn isMerged
  cases rendered : Marks.render text.points merged (comment.map Text.points) with
  | error error =>
      exact (deliversNothing_crash _).deliversLast
  | ok shown =>
      refine DeliversLast.bind_finishes (deliversLast_deliver disk ?_) fun _ => finishes_notice _
      rintro path rfl notEncodable
      exact ⟨source, edits, comment, batch, rfl, held,
        exists_half_of_render merges rendered notEncodable⟩

theorem deliversLast_delimiter
    {emptied : Path → Prop}
    (input : Operand) :
    (delimiter host disk input).DeliversLast emptied := by
  refine (deliversNothing_readText disk input).bind_deliversLast fun text _ => ?_
  refine (deliversNothing_asked _).bind_deliversLast fun found _ => ?_
  have tells :
      DeliversLast emptied
        (asked ((Document.ofText text).defaultDelimiter host.lineDelimiter) >>= fun delimiter =>
          print (Json.quote delimiter.points)) :=
    (deliversNothing_asked _).bind_deliversLast fun _ _ => (finishes_print _).deliversLast
  cases found with
  | some delimiter =>
      exact tells
  | none =>
      exact (deliversNothing_notice _).bind_deliversLast fun _ _ => tells

/-- Every command delivers only when nothing but a half that it shows can stop it any more. -/
theorem deliversLast_ofCommand (command : Command) :
    (ofCommand host disk command).DeliversLast (command.ShowsHalf host disk) := by
  cases command with
  | merge source edits processed output =>
      exact deliversLast_merge host disk source edits processed output
  | diff source target json reverse merge granularity =>
      exact deliversLast_diff host disk source target json reverse merge granularity
  | markup source edits comment output =>
      exact deliversLast_markup host disk source edits comment output
  | delimiter input =>
      exact deliversLast_delimiter host disk input

end Work

/-! ## Programs -/

/-- So does all that a command line may ask for, also where it is used wrongly. -/
theorem deliversLast_workOf
    (host : Host)
    (disk : Disk)
    (arguments : List Text) :
    (workOf host disk arguments).1.DeliversLast fun path =>
      ∃ settings command,
        Invocation.ofTexts? arguments = some (.run settings command) ∧
          command.ShowsHalf host disk path := by
  unfold workOf
  split
  · exact ((Work.deliversNothing_notice _).bind fun _ =>
      Work.deliversNothing_throw .wrongUsage).deliversLast
  · exact (Work.finishes_print _).deliversLast
  · exact (Work.finishes_print versionLine).deliversLast
  · next settings command asked =>
      intro before stop after stopped
      rcases Work.deliversLast_ofCommand host disk command before stop after stopped with
        same | ⟨path, showsHalf, crashed, leavesEmpty⟩
      · exact Or.inl same
      · exact Or.inr ⟨path, ⟨settings, command, asked, showsHalf⟩, crashed, leavesEmpty⟩

/--
A program that ends with a status other than zero, or with none because it crashes, has
printed nothing.  It has saved nothing either, whatever it was asked for and whatever is on the
disk, unless it was to show edits in a file and one of them holds half of a surrogate pair.  If
the program crashes because it cannot encode what it was to write there, then it has created the
file or emptied it, and has saved nothing else.
-/
theorem stopped_program_leaves_at_most_an_empty_file
    {host : Host}
    {disk : Disk}
    {arguments : List Text}
    (stopped : (runProgram host disk arguments).status? ≠ some 0) :
    let outcome := runProgram host disk arguments
    outcome.printed = [] ∧
      (outcome.transcript.saved = #[] ∨
        ∃ settings command path,
          Invocation.ofTexts? arguments = some (.run settings command) ∧
            command.ShowsHalf host disk path ∧
            outcome.ending = .error (.crash .notEncodable) ∧
            outcome.transcript.saved = #[(path, [])]) := by
  have last := deliversLast_workOf host disk arguments
  rcases ran : (workOf host disk arguments).1.run.run .empty with ⟨ending, after⟩
  have outcome : (workOf host disk arguments).1.outcome = ⟨ending, after⟩ := by
    rw [Work.outcome, ran]
  simp only [runProgram, outcome, Outcome.status?, Outcome.printed] at stopped ⊢
  cases ending with
  | ok _ =>
      exact (stopped rfl).elim
  | error stop =>
      rcases last .empty stop after ran with
        same | ⟨path, ⟨settings, command, asked, showsHalf⟩, rfl, leavesEmpty⟩
      · rw [same.printed, same.saved]
        exact ⟨rfl, Or.inl rfl⟩
      · rw [leavesEmpty.printed, leavesEmpty.saved]
        exact ⟨rfl, Or.inr ⟨settings, command, path, asked, showsHalf, rfl, rfl⟩⟩

/-- The edit reaches beyond the text, and the output that could have been saved is not. -/
theorem stopped_program_leaves_at_most_an_empty_file_beyond_text :
    let folder : Folder :=
      [(["text".toList], .file "abc".toUTF8),
        (["edits".toList], .file "[\x7b\"offset\": 2, \"length\": 9\x7d]".toUTF8)]
    let outcome := runProgram Host.standard folder.entry
      (["markup", "text", "edits", "--output", "shown"].map String.toList)
    outcome.status? ≠ some 0 ∧
      outcome.printed = [] ∧
      outcome.transcript.saved = #[] := by
  intro folder outcome
  have stopped : outcome.status? ≠ some 0 := by decide +kernel
  have beyond : outcome.ending = .error (.crash (.outsideText ⟨2, 9, 3⟩)) := by decide +kernel
  obtain ⟨silent, nothing | ⟨_, _, _, _, _, crashed, _⟩⟩ :=
    stopped_program_leaves_at_most_an_empty_file stopped
  · exact ⟨stopped, silent, nothing⟩
  · rw [beyond] at crashed
    cases crashed

/-- An escape names half of a pair; before it is found out, the file has been created. -/
theorem half_of_pair_leaves_an_empty_file :
    let folder : Folder :=
      [(["text".toList], .file "abc".toUTF8),
        (["edits".toList],
          .file "[\x7b\"offset\": 0, \"text\": \"\\ud800\"\x7d]".toUTF8)]
    let outcome := runProgram Host.standard folder.entry
      (["markup", "text", "edits", "--output", "shown"].map String.toList)
    folder.entry (Path.ofText "shown".toList) = .vacant ∧
      outcome.ending = .error (.crash .notEncodable) ∧
      outcome.status? ≠ some 0 ∧
      outcome.transcript.saved = #[(Path.ofText "shown".toList, [])] := by
  intro folder outcome
  exact ⟨rfl, by decide +kernel, by decide +kernel, by decide +kernel⟩

end Splice
