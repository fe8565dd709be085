import Splice.Command.Run
import Splice.Proofs.Json.Batch

namespace Splice

/-!
# What work returns and prints

Work that ends as it should returns a value and adds to what has been printed, whatever
was done before it.  Each step of a command has its own rule, and the rules are put
together in the order of the steps.
-/

/-- The file under a name holds a text in UTF-8. -/
def Disk.Holds (disk : Disk) (name text : Text) : Prop :=
  disk (Path.ofText name) = .file (String.ofList text).toUTF8

namespace Work

variable {Value Result : Type}

/-! ## Work in turn -/

/-- Behind work that does not stop, what follows goes on from its value. -/
theorem run_bind_of_ok
    {first : Work Value}
    {before between : Transcript}
    {value : Value}
    (firstRuns : first.run.run before = (.ok value, between))
    (next : Value → Work Result) :
    (first >>= next).run.run before = (next value).run.run between := by
  rw [ExceptT.run_bind, StateT.run_bind, firstRuns]
  rfl

/-- Behind work that stops, nothing follows. -/
theorem run_bind_of_error
    {first : Work Value}
    {before between : Transcript}
    {stop : Stop}
    (firstRuns : first.run.run before = (.error stop, between))
    (next : Value → Work Result) :
    (first >>= next).run.run before = (.error stop, between) := by
  rw [ExceptT.run_bind, StateT.run_bind, firstRuns]
  rfl

/-- The work does not stop; it returns the value and prints the texts, one after another. -/
def Returns
    (work : Work Value)
    (value : Value)
    (printed : List Text) : Prop :=
  ∀ before, ∃ after,
    work.run.run before = (.ok value, after) ∧
      after.printed.toList = before.printed.toList ++ printed

theorem returns_pure (value : Value) : Returns (pure value) value [] :=
  fun before => ⟨before, rfl, (List.append_nil _).symm⟩

/-- What comes later is printed behind what came first. -/
theorem Returns.bind
    {first : Work Value}
    {next : Value → Work Result}
    {value : Value}
    {result : Result}
    {printed later : List Text}
    (firstReturns : first.Returns value printed)
    (nextReturns : (next value).Returns result later) :
    (first >>= next).Returns result (printed ++ later) := by
  intro before
  obtain ⟨between, firstRuns, firstPrints⟩ := firstReturns before
  obtain ⟨after, nextRuns, nextPrints⟩ := nextReturns between
  refine ⟨after, ?_, ?_⟩
  · rw [run_bind_of_ok firstRuns, nextRuns]
  · rw [nextPrints, firstPrints, List.append_assoc]

/-- Work that prints nothing may come first. -/
theorem Returns.bind_silent
    {first : Work Value}
    {next : Value → Work Result}
    {value : Value}
    {result : Result}
    {printed : List Text}
    (firstReturns : first.Returns value [])
    (nextReturns : (next value).Returns result printed) :
    (first >>= next).Returns result printed :=
  firstReturns.bind nextReturns

theorem Returns.map
    {work : Work Value}
    {value : Value}
    {printed : List Text}
    (returns : work.Returns value printed)
    (convert : Value → Result) :
    (convert <$> work).Returns (convert value) printed := by
  have pureReturns := returns_pure (convert value)
  rw [map_eq_pure_bind, ← List.append_nil printed]
  exact returns.bind pureReturns

theorem notice_returns (text : Text) : (notice text).Returns () [] :=
  fun _ => ⟨_, rfl, (List.append_nil _).symm⟩

theorem report_returns (records : List LogRecord) : (report records).Returns () [] :=
  fun _ => ⟨_, rfl, (List.append_nil _).symm⟩

theorem print_returns (text : Text) : (print text).Returns () [text ++ ['\n']] :=
  fun _ => ⟨_, rfl, Array.toList_push⟩

theorem encodable_returns (text : Text) : (encodable text.points).Returns text [] := by
  rw [encodable, Text.chars?_points]
  exact returns_pure text

/-! ## Reading -/

/-- The bytes of a text in UTF-8 encode that text. -/
theorem textOfBytes?_toUTF8 (text : Text) :
    textOfBytes? (String.ofList text).toUTF8 = some text := by
  have decoded : String.fromUTF8? (String.ofList text).toUTF8 = some (String.ofList text) :=
    dif_pos (String.ofList text).isValidUTF8
  rw [textOfBytes?, decoded, Option.map_some, String.toList_ofList]

variable {host : Host} {disk : Disk} {name : Text}

theorem readText_returns
    {text : Text}
    (held : disk.Holds name text) :
    (readText disk (some (Path.ofText name))).Returns text [] := by
  have pathReturns : (pathOf (some (Path.ofText name))).Returns (Path.ofText name) [] :=
    returns_pure _
  refine pathReturns.bind_silent ?_
  rw [held]
  simp only [textOfBytes?_toUTF8]
  exact returns_pure text

section

variable {batch : List Edit}

/-- A file with a written batch holds that batch, also with blanks behind it. -/
theorem batchOf?_writeBatch_append
    {path : Path}
    {blanks : Text}
    (faithful : host.validate.Faithful)
    (readable : ∀ edit ∈ batch, edit.Readable host.digitLimit)
    (areBlanks : blanks.all Json.isBlank = true)
    (held :
      disk path =
        .file (String.ofList (Json.writeBatch (batch.map Edit.points) ++ blanks)).toUTF8) :
    batchOf? host disk (some path) = .ok (batch.map Edit.points) := by
  have described := Edit.batchOfJson_map_toJson faithful (batch.map Edit.points)
  rw [List.map_map] at described
  rw [batchOf?, Option.map_some, held]
  simp only [textOfBytes?_toUTF8, Option.map_some,
    Json.ofText_writeBatch_append readable areBlanks]
  exact described

/-- A batch that was printed to a file is read from it. -/
theorem readBatch_returns
    (faithful : host.validate.Faithful)
    (readable : ∀ edit ∈ batch, edit.Readable host.digitLimit)
    (held : disk.Holds name (Json.writeBatch (batch.map Edit.points) ++ ['\n'])) :
    (readBatch host disk (some (Path.ofText name))).Returns (batch.map Edit.points) [] := by
  rw [readBatch, batchOf?_writeBatch_append faithful readable rfl held]
  exact returns_pure (batch.map Edit.points)

/--
A batch that is written to a file as JSON is read from it as it was, with the same edits in
the same order, whatever characters their texts consist of and however large their numbers are,
as long as their digits may be read.  The validator may be any that takes counts and texts as
they are.  Blanks behind the JSON, such as the line break of a printed line, make no difference,
and reading does nothing else.
-/
theorem written_batch_is_read_back
    {path : Path}
    {blanks : Text}
    (faithful : host.validate.Faithful)
    (readable : ∀ edit ∈ batch, edit.Readable host.digitLimit)
    (areBlanks : blanks.all Json.isBlank = true)
    (held :
      disk path =
        .file (String.ofList (Json.writeBatch (batch.map Edit.points) ++ blanks)).toUTF8)
    (before : Transcript) :
    (readBatch host disk (some path)).run.run before = (.ok (batch.map Edit.points), before) := by
  rw [readBatch, batchOf?_writeBatch_append faithful readable areBlanks held]
  rfl

end

/-- Controls, quotes, backslashes and characters beyond the basic plane are read back. -/
theorem written_batch_is_read_back_escaped :
    let batch : List Edit :=
      [⟨10 ^ 30, 0, ['"', '\\', '\x00', '\r', '\x7f', 'é', '\u2028', '😀']⟩, ⟨0, 7, []⟩]
    let path := Path.ofText "edits".toList
    let written := Json.writeBatch (batch.map Edit.points) ++ ['\n']
    let folder : Folder := Folder.save [] path (String.ofList written).toUTF8
    Host.standard.validate.Faithful ∧
      (∀ edit ∈ batch, edit.Readable Host.standard.digitLimit) ∧
      ['\n'].all Json.isBlank = true ∧
      folder.entry path = .file (String.ofList written).toUTF8 ∧
      (readBatch Host.standard folder.entry (some path)).run.run .empty =
        (.ok (batch.map Edit.points), .empty) := by
  intro batch path written folder
  have readable : ∀ edit ∈ batch, edit.Readable Host.standard.digitLimit := by
    simp only [batch, List.forall_mem_cons]
    exact ⟨⟨by decide, by decide⟩, ⟨by decide, by decide⟩, by simp⟩
  have held : folder.entry path = .file (String.ofList written).toUTF8 :=
    rfl
  exact ⟨Edit.faithful_validate, readable, rfl, held,
    written_batch_is_read_back Edit.faithful_validate readable rfl held .empty⟩

/-! ## Merging -/

section

variable {α : Type} {source : Text α} {batch : List (Edit α)} {merged : Option (Edit α)}

theorem reportMerged_returns (state : String) :
    (reportMerged state batch (.ok merged)).Returns merged [] :=
  (report_returns _).bind_silent (returns_pure merged)

theorem mergeReported_returns
    (merges : mergeForward source batch = .ok merged) :
    (mergeReported source batch).Returns merged [] := by
  rw [mergeReported, merges]
  exact (report_returns _).bind_silent (reportMerged_returns _)

theorem applyAndMerge_returns
    {target : Text α}
    (applies : source.applyAll batch = .ok target)
    (merges : mergeBackward batch target = .ok merged) :
    (applyAndMerge source batch).Returns merged [] := by
  rw [applyAndMerge, applies]
  simp only [merges]
  exact (report_returns _).bind_silent
    ((report_returns _).bind_silent (reportMerged_returns _))

/-- A batch that fits is merged, whether it is applied first or not. -/
theorem mergeBatch_returns
    {target : Text α}
    (applies : source.applyAll batch = .ok target)
    (mergesForward : mergeForward source batch = .ok merged)
    (mergesBackward : mergeBackward batch target = .ok merged)
    (processed : Bool) :
    (mergeBatch processed source batch).Returns merged [] := by
  cases processed with
  | false =>
      exact mergeReported_returns mergesForward
  | true =>
      exact applyAndMerge_returns applies mergesBackward

end

/-! ## Commands -/

/-- What a merge prints: the edit that it came to, or nothing but its absence. -/
def mergedText : Option (Edit CodePoint) → Text
  | none => "null".toList
  | some edit => Json.writeEdit 0 edit

theorem deliver_returns (content : Text) :
    (deliver disk content.points none).Returns () [content ++ ['\n']] :=
  (encodable_returns content).bind_silent (print_returns content)

variable {source : Text} {batch : List Edit} {merged : Option Edit}

/-- The command to merge prints what merging came to. -/
theorem merge_returns
    {edits : Text}
    {processed : Bool}
    {mergedPoints : Option (Edit CodePoint)}
    (faithful : host.validate.Faithful)
    (readable : ∀ edit ∈ batch, edit.Readable host.digitLimit)
    (sourceHeld : disk.Holds name source)
    (editsHeld : disk.Holds edits (Json.writeBatch (batch.map Edit.points) ++ ['\n']))
    (merges :
      (mergeBatch processed source.points (batch.map Edit.points)).Returns mergedPoints []) :
    (merge host disk (some (Path.ofText name)) (some (Path.ofText edits)) processed none).Returns
      () [mergedText mergedPoints ++ ['\n']] := by
  refine (readText_returns sourceHeld).bind_silent ?_
  refine (readBatch_returns faithful readable editsHeld).bind_silent ?_
  refine merges.bind_silent ?_
  cases mergedPoints with
  | none =>
      exact (notice_returns _).bind_silent (deliver_returns _)
  | some edit =>
      exact (notice_returns _).bind_silent (deliver_returns _)

variable {target : Text} {granularity : Granularity} {reverse : Bool}

theorem shownEdits_returns_batch : (shownEdits false source batch).Returns batch [] :=
  returns_pure batch

theorem shownEdits_returns_merged
    (merges : mergeForward source batch = .ok merged) :
    (shownEdits true source batch).Returns merged.toList [] :=
  (mergeReported_returns merges).map Option.toList

/-- The command to compare prints the edits that it is to show. -/
theorem diff_returns
    {modified : Text}
    {merge : Bool}
    {shown : List Edit}
    (sourceHeld : disk.Holds name source)
    (targetHeld : disk.Holds modified target)
    (compared :
      editsBy host.compare (orderOf reverse) granularity Word.codeCount source target = .ok batch)
    (shows : (shownEdits merge source batch).Returns shown []) :
    (diff host disk (some (Path.ofText name)) (some (Path.ofText modified)) true reverse merge
      (some granularity)).Returns () [Json.writeBatch (shown.map Edit.points) ++ ['\n']] := by
  refine (readText_returns sourceHeld).bind_silent ?_
  refine (readText_returns targetHeld).bind_silent ?_
  simp only [compared]
  refine (report_returns _).bind_silent ?_
  refine shows.bind_silent ?_
  exact print_returns _

end Work

/-! ## Outcomes -/

/-- The program ends well, and the text is all that it has printed. -/
def Outcome.Prints (outcome : Outcome) (text : Text) : Prop :=
  outcome.status? = some 0 ∧ outcome.printed = text

/-- The program ends well when the work that it is asked for does, with what that prints. -/
theorem runProgram_prints
    {host : Host}
    {disk : Disk}
    {arguments : List Text}
    {settings : LogSettings}
    {command : Command}
    {printed : Text}
    (asked : Invocation.ofTexts? arguments = some (.run settings command))
    (returns : (Work.ofCommand host disk command).Returns () [printed]) :
    (runProgram host disk arguments).Prints printed := by
  obtain ⟨after, runs, prints⟩ := returns .empty
  have work : workOf host disk arguments = (Work.ofCommand host disk command, settings) := by
    rw [workOf, asked]
  have outcome : (Work.ofCommand host disk command).outcome = ⟨.ok (), after⟩ := by
    rw [Work.outcome, runs]
  have onlyThis : after.printed.toList = [printed] := prints
  constructor
  · simp [runProgram, work, outcome, Outcome.status?]
  · simp [runProgram, work, outcome, Outcome.printed, onlyThis]

end Splice
