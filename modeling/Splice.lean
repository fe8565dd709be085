import Splice.Command.Run
import Splice.Document.Session
import Splice.Main
import Splice.Region
import Splice.Proofs.Batch
import Splice.Proofs.Merge.Hull
import Splice.Proofs.Merge.Forward
import Splice.Proofs.Merge.Backward
import Splice.Proofs.Merge.Agreement
import Splice.Proofs.Script.Changes
import Splice.Proofs.Word.Code
import Splice.Proofs.Word.Lexicon
import Splice.Proofs.Script.Sides
import Splice.Proofs.Script.Between
import Splice.Proofs.Comparison
import Splice.Proofs.Merge.Stages
import Splice.Proofs.Merge.Points
import Splice.Proofs.Document.History
import Splice.Proofs.Word.Encoding
import Splice.Proofs.Word.Repetition
import Splice.Proofs.Json.Scalars
import Splice.Proofs.Json.Batch
import Splice.Proofs.Command.Work
import Splice.Proofs.Command.Lines
import Splice.Proofs.Command.DiffThenMerge
import Splice.Proofs.Script.Orders
import Splice.Proofs.Comparison.Orders
import Splice.Proofs.Merge.Material
import Splice.Proofs.Command.Stopping
import Splice.Proofs.Merge.Refusals
import Splice.Proofs.LineBreaks
import Splice.Proofs.Comparison.Words
import Splice.Proofs.Needles.Places
import Splice.Proofs.Merge.Locality
import Splice.Proofs.Marks
import Splice.Proofs.Merge.Gaps
import Splice.Proofs.Command.Misfits
import Splice.Proofs.LineBreaks.Standard
import Splice.Proofs.Needles.Longest
import Splice.Proofs.Document.Delimiters
import Splice.Proofs.Script.Runs
import Splice.Proofs.Script.Runs.Changes
import Splice.Proofs.Comparison.Runs
import Splice.Proofs.Region
import Splice.Proofs.Word.Tokens
