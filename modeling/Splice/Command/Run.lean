import Splice.Command.Folder
import Splice.Command.Host
import Splice.Command.Log
import Splice.Document
import Splice.Json.Reader
import Splice.Marks

namespace Splice

/-!
# Running commands

A command is a sequence of effects on a transcript: it gives notices and log records,
prints, and writes files.  It may stop at any point, and what the transcript holds by
then has happened.  What it relies on is given by a host.
-/

/-- What ends the program in the middle of its work. -/
inductive Crash where
  | noOperand
  | notAnEdit
  | notUtf8
  | isDirectory
  | noDirectory
  | notADirectory
  | pathTooLong
  | unusablePath
  | nestedTooDeep
  | noGranularity
  | notEncodable
  | outsideText (error : RangeError)
  | noCode (error : Word.CodeError)
  deriving Repr, DecidableEq

def Crash.message : Crash → String
  | .noOperand => "An operand names no path."
  | .notAnEdit => "An item of the batch is not an edit."
  | .notUtf8 => "The file does not hold text in UTF-8."
  | .isDirectory => "There is a directory in place of a file."
  | .noDirectory => "The directory of the file does not exist."
  | .notADirectory => "There is a file in place of a directory."
  | .pathTooLong => "The path is too long."
  | .unusablePath => "The path holds a null character."
  | .nestedTooDeep => "The batch is nested too deep."
  | .noGranularity => "The granularity is only a separator."
  | .notEncodable => "The output holds half of a surrogate pair."
  | .outsideText error => error.message
  | .noCode _ => "There are more tokens than characters."

/-- Why a command stops before its end. -/
inductive Stop where
  | wrongUsage
  | failure
  | crash (cause : Crash)
  deriving Repr, DecidableEq

/--
All that a command has done so far.  Of every file that it has created or written, `saved` tells
what the file held then; what it held last counts.
-/
structure Transcript where
  notices : Array Text
  records : Array LogRecord
  printed : Array Text
  saved : Array (Path × Text)

def Transcript.empty : Transcript :=
  ⟨#[], #[], #[], #[]⟩

/-- A command at work: it adds to its transcript, and it may stop. -/
abbrev Work := ExceptT Stop (StateM Transcript)

/-- The files that a command can read. -/
abbrev Disk := Path → Entry

namespace Work

def notice (text : Text) : Work Unit :=
  modify fun transcript => { transcript with notices := transcript.notices.push text }

/-- Add log records. -/
def report (records : List LogRecord) : Work Unit :=
  modify fun transcript =>
    { transcript with records := transcript.records ++ records.toArray }

/-- Print a text and end its line. -/
def print (text : Text) : Work Unit :=
  modify fun transcript =>
    { transcript with printed := transcript.printed.push (text ++ ['\n']) }

/-- Stop after a notice. -/
def fail {Value : Type} (text : Text) : Work Value := do
  notice text
  throw .failure

/-- Stop in the middle of the work. -/
def crash {Value : Type} (cause : Crash) : Work Value :=
  throw (.crash cause)

/-- Leave a file under a path that holds a text. -/
def save (path : Path) (text : Text) : Work Unit :=
  modify fun transcript => { transcript with saved := transcript.saved.push (path, text) }

/-- The characters of a text that is to be encoded in UTF-8. -/
def encodable (text : Text CodePoint) : Work Text :=
  match text.chars? with
  | some characters => return characters
  | none => crash .notEncodable

/-- The path of an operand that has one. -/
def pathOf (operand : Operand) : Work Path :=
  match operand with
  | some path => return path
  | none => crash .noOperand

/-- The text that bytes encode in UTF-8. -/
def textOfBytes? (content : ByteArray) : Option Text :=
  (String.fromUTF8? content).map String.toList

/-- The text of a file. -/
def readText (disk : Disk) (operand : Operand) : Work Text := do
  let path ← pathOf operand
  match disk path with
  | .file content =>
      match textOfBytes? content with
      | some text => return text
      | none => crash .notUtf8
  | .directory => crash .isDirectory
  | .tooLong => crash .pathTooLong
  | _ => fail ("Error: File not found: ".toList ++ path.toText)

/-- The batch that a file holds, if it can be read. -/
def batchOf?
    (host : Host)
    (disk : Disk)
    (operand : Operand) :
    Except Edit.BatchError (List (Edit CodePoint)) :=
  match operand.map disk with
  | some (.file content) =>
      match (textOfBytes? content).map (Json.ofText host.digitLimit) with
      | some (.ok json) => Edit.batchOfJson host.validate json
      | some (.error .nestedTooDeep) => .error .nestedTooDeep
      | some (.error .malformed) => .error .notABatch
      | none => .error .notABatch
  | _ => .error .notABatch

/-- The batch that a file holds. -/
def readBatch
    (host : Host)
    (disk : Disk)
    (operand : Operand) :
    Work (List (Edit CodePoint)) :=
  match batchOf? host disk operand with
  | .ok batch => return batch
  | .error .notAnObject => crash .notAnEdit
  | .error .nestedTooDeep => crash .nestedTooDeep
  | .error _ => fail "Error parsing JSON edits:".toList

/-- Stop because a batch does not fit its document. -/
def mismatch {Value : Type} (error : RangeError) : Work Value := do
  report [.mismatch error]
  fail ("Error: " ++ error.message).toList

section

variable {α : Type}

/-- Report what a merge of a batch came to; `state` tells whether it had been applied. -/
def reportMerged
    (state : String)
    (batch : List (Edit α))
    (result : Except RangeError (Option (Edit α))) :
    Work (Option (Edit α)) := do
  match result with
  | .error error => mismatch error
  | .ok merged =>
      report (LogRecord.merged state batch.length merged)
      return merged

/-- The edit of `source` with the effect of a batch, which has not been applied to it. -/
def mergeReported (source : Text α) (batch : List (Edit α)) : Work (Option (Edit α)) := do
  report (LogRecord.forwardSteps source batch)
  reportMerged "unprocessed" batch (mergeForward source batch)

/-- Apply a batch to `source`, and merge it against the result. -/
def applyAndMerge (source : Text α) (batch : List (Edit α)) : Work (Option (Edit α)) := do
  report (LogRecord.applyingAll source batch)
  match source.applyAll batch with
  | .error error => mismatch error
  | .ok result =>
      report (LogRecord.backwardSteps batch)
      reportMerged "processed" batch (mergeBackward batch result)

/-- The edit of `source` with the effect of a batch, which is applied first if asked. -/
def mergeBatch
    (processed : Bool)
    (source : Text α)
    (batch : List (Edit α)) :
    Work (Option (Edit α)) :=
  if processed then applyAndMerge source batch else mergeReported source batch

end

/-- Create an empty file under a path, or empty the one that is there. -/
def create (disk : Disk) (path : Path) : Work Unit :=
  match disk path with
  | .directory => crash .isDirectory
  | .lost => crash .noDirectory
  | .blocked => crash .notADirectory
  | .tooLong => crash .pathTooLong
  | .unusable => crash .unusablePath
  | _ => save path []

/--
Deliver a result: print it, or write it to a file.  The file is created before the text is
encoded, so that a text that cannot be encoded leaves it empty.
-/
def deliver
    (disk : Disk)
    (content : Text CodePoint)
    (output : Option Path) :
    Work Unit :=
  match output with
  | none => do
      let characters ← encodable content
      print characters
  | some path => do
      create disk path
      let characters ← encodable content
      save path characters
      notice ("✅ Saved to ".toList ++ path.toText)

/-- Merge the edits of a file into one. -/
def merge
    (host : Host)
    (disk : Disk)
    (source edits : Operand)
    (processed : Bool)
    (output : Option Path) :
    Work Unit := do
  let text ← readText disk source
  let batch ← readBatch host disk edits
  match ← mergeBatch processed text.points batch with
  | none =>
      notice "Warning: No edits found in JSON file.".toList
      deliver disk (Text.points "null".toList) output
  | some edit =>
      notice s!"Merged {batch.length} edits.".toList
      deliver disk (Json.writeEdit 0 edit).points output

/-- A number of code points, or a position, in decimal digits. -/
def decimal (number : Nat) : Text :=
  Json.digits number

def inQuotes (text : Text) : Text :=
  '\'' :: text ++ ['\'']

/-- One change as a line; `target` is what it replaces, where that is shown. -/
def changeLine (target : Option Text) (edit : Edit) : Text :=
  let span := decimal edit.offset ++ '+' :: decimal edit.length
  let arrow := " -> ".toList ++ inQuotes edit.text
  if edit.text = [] then
    "[-] @".toList ++ span
  else if edit.length = 0 then
    "[+] @".toList ++ decimal edit.offset ++ ' ' :: inQuotes edit.text
  else
    match target with
    | some target => "[~] @".toList ++ span ++ ' ' :: inQuotes target ++ arrow
    | none => "[~] @".toList ++ span ++ arrow

/-- The order in which the edits of a comparison are given. -/
def orderOf (reverse : Bool) : Script.Order :=
  if reverse then .rightToLeft else .leftToRight

/-- The edits that a comparison shows: those of a batch, or the one that they merge into. -/
def shownEdits
    (merge : Bool)
    (source : Text)
    (batch : List Edit) :
    Work (List Edit) :=
  if merge then Option.toList <$> mergeReported source batch else pure batch

/-- Compare two files. -/
def diff
    (host : Host)
    (disk : Disk)
    (source target : Operand)
    (json reverse merge : Bool)
    (granularity : Option Granularity) :
    Work Unit := do
  let sourceText ← readText disk source
  let targetText ← readText disk target
  let some granularity := granularity | crash .noGranularity
  match editsBy host.compare (orderOf reverse) granularity Word.codeCount sourceText targetText with
  | .error error => crash (.noCode error)
  | .ok edits =>
      report [.generated edits.length granularity.name reverse]
      let shown ← shownEdits merge sourceText edits
      if json then
        print (Json.writeBatch (shown.map Edit.points))
      else
        notice s!"Found {shown.length} changes:".toList
        shown.forM fun edit =>
          let replaced := sourceText.slice edit.offset edit.stop
          print (changeLine (if merge || reverse then some replaced else none) edit)

/-- Stop unless there is something under the path of the edits. -/
def demandEdits (disk : Disk) (path : Path) : Work Unit :=
  match disk path with
  | .file _ => return
  | .directory => return
  | .tooLong => crash .pathTooLong
  | _ => fail ("Error: Edits file not found: ".toList ++ path.toText)

/-- Show the edits of a file, merged into one, in the text they refer to. -/
def markup
    (host : Host)
    (disk : Disk)
    (source edits : Operand)
    (comment : Option Text)
    (output : Option Path) :
    Work Unit := do
  let text ← readText disk source
  demandEdits disk (← pathOf edits)
  let batch ← readBatch host disk edits
  let merged ← mergeReported text.points batch
  match Marks.render text.points merged (comment.map Text.points) with
  | .error error => crash (.outsideText error)
  | .ok rendered =>
      deliver disk rendered output
      notice s!"Stats: {batch.length} edits merged.".toList

/-- What has been asked of a document, which refuses ranges that it does not hold. -/
def asked {Value : Type} (answer : Except RangeError Value) : Work Value :=
  match answer with
  | .ok value => return value
  | .error error => crash (.outsideText error)

/-- Tell which line delimiter to use for a file. -/
def delimiter (host : Host) (disk : Disk) (input : Operand) : Work Unit := do
  let document := Document.ofText (← readText disk input)
  if (← asked (document.lineDelimiter 0)).isNone then
    notice "Warning: No line delimiter found, reporting the default.".toList
  let delimiter ← asked (document.defaultDelimiter host.lineDelimiter)
  print (Json.quote delimiter.points)

/-- Do what a command asks for. -/
def ofCommand (host : Host) (disk : Disk) : Command → Work Unit
  | .merge source edits processed output => merge host disk source edits processed output
  | .diff source target json reverse merge granularity =>
      diff host disk source target json reverse merge granularity
  | .markup source edits comment output => markup host disk source edits comment output
  | .delimiter input => delimiter host disk input

end Work

/-- How the program ends, and what it has done by then. -/
structure Outcome where
  ending : Except Stop Unit
  transcript : Transcript

namespace Outcome

/-- The exit status; a crash has none of its own. -/
def status? (outcome : Outcome) : Option Nat :=
  match outcome.ending with
  | .ok _ => some 0
  | .error .failure => some 1
  | .error .wrongUsage => some 2
  | .error (.crash _) => none

/-- All that has been printed. -/
def printed (outcome : Outcome) : Text :=
  outcome.transcript.printed.toList.flatten

end Outcome

/-- The outcome of a command from an empty transcript on. -/
def Work.outcome (work : Work Unit) : Outcome :=
  let (ending, transcript) := work.run.run .empty
  ⟨ending, transcript⟩

/-- The records that the settings let through, which is none unless they are asked for. -/
def shownRecords (settings : LogSettings) (records : Array LogRecord) : Array LogRecord :=
  if settings.json then
    records.filter fun record => settings.verbose || record.level != .debug
  else
    #[]

def programVersion : String :=
  "0.1.0"

def versionLine : Text :=
  ("editmerge " ++ programVersion).toList

/-- The work that a command line asks for, with the settings for its records. -/
def workOf
    (host : Host)
    (disk : Disk)
    (arguments : List Text) :
    Work Unit × LogSettings :=
  match Invocation.ofTexts? arguments with
  | none => (do Work.notice (host.complaint arguments); throw .wrongUsage, ⟨false, false⟩)
  | some (.help command) => (Work.print (host.help command), ⟨false, false⟩)
  | some .version => (Work.print versionLine, ⟨false, false⟩)
  | some (.run settings command) => (Work.ofCommand host disk command, settings)

/-- The program for one command line. -/
def runProgram
    (host : Host)
    (disk : Disk)
    (arguments : List Text) :
    Outcome :=
  let (work, settings) := workOf host disk arguments
  let outcome := work.outcome
  { outcome with
    transcript :=
      { outcome.transcript with
        records := shownRecords settings outcome.transcript.records } }

end Splice
