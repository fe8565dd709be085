import Splice.Script
import Splice.Text.Shared

namespace Splice.Script

/-!
# Tidying scripts

Tidying repeats two passes until the second changes nothing.  The first gathers each
run of deletions and insertions into one of each and gives what they share at their
ends to the kept pieces around them.  The second moves a lone change sideways where
that makes a kept piece beside it vanish.
-/

/-- The texts of the pieces with one operation, joined. -/
def textOf (operation : Operation) (run : Script) : Text :=
  (run.filter fun piece => piece.operation == operation).flatMap Piece.text

/-- The run holds a piece with the operation. -/
def holds (operation : Operation) (run : Script) : Bool :=
  run.any fun piece => piece.operation == operation

/-- Pieces in reverse order, the first of them a kept one that ends with `text`. -/
def keepBehind (done : Script) (text : Text) : Script :=
  match done with
  | ⟨.keep, kept⟩ :: rest => .keep (kept ++ text) :: rest
  | rest => .keep text :: rest

/--
The pieces up to and including a kept one, in reverse order: `done` are those before
the run, `run` the changes in between, `kept` the text of the kept one.  A run of one
change stays as it is; a longer one is reduced to what its deletions and insertions
do not share.
-/
def closeRun (done run : Script) (kept : Text) : Script :=
  match run with
  | [] =>
      match done with
      | ⟨.keep, before⟩ :: rest => .keep (before ++ kept) :: rest
      | rest => .keep kept :: rest
  | [change] => .keep kept :: change :: done
  | run =>
      let deleted := textOf .delete run
      let inserted := textOf .insert run
      if holds .delete run && holds .insert run then
        let start := Text.commonPrefix inserted deleted
        let inserted := inserted.drop start.length
        let deleted := deleted.drop start.length
        let done := if start = [] then done else keepBehind done start
        let ending := Text.commonSuffix inserted deleted
        .keep (ending ++ kept) ::
          (unlessEmpty .insert (Text.dropEnd inserted ending.length) ++
            (unlessEmpty .delete (Text.dropEnd deleted ending.length) ++ done))
      else
        .keep kept :: (unlessEmpty .insert inserted ++ (unlessEmpty .delete deleted ++ done))

/-- Gather the runs of a script; `done` and `run` hold what lies before it, in reverse. -/
def gatherRuns (done run : Script) : Script → Script
  | [] => run ++ done
  | piece :: rest =>
      if piece.isKept then
        gatherRuns (closeRun done run.reverse piece.text) [] rest
      else
        gatherRuns done (piece :: run) rest

/-- Gather all runs; an empty kept piece closes the last one and goes if it stays empty. -/
def gather (script : Script) : Script :=
  match gatherRuns [] [] (script ++ [.keep []]) with
  | ⟨_, []⟩ :: rest => rest.reverse
  | done => done.reverse

/--
Move changes between kept pieces sideways where a kept piece vanishes: a change that
ends with the kept piece before it moves over that one, a change that starts with the
kept piece behind it moves over that one.  `done` holds the pieces before, in reverse.
-/
def shiftChanges
    (done : Script)
    (changed : Bool) :
    Script → Script × Bool
  | before :: change :: behind :: rest =>
      if before.isKept && behind.isKept then
        if before.text.isSuffixOf change.text then
          let moved :=
            before.text ++ Text.dropEnd change.text before.text.length
          shiftChanges (⟨change.operation, moved⟩ :: done) true
            (.keep (before.text ++ behind.text) :: rest)
        else if behind.text.isPrefixOf change.text then
          let moved := change.text.drop behind.text.length ++ behind.text
          shiftChanges (.keep (before.text ++ behind.text) :: done) true
            (⟨change.operation, moved⟩ :: rest)
        else
          shiftChanges (before :: done) changed (change :: behind :: rest)
      else
        shiftChanges (before :: done) changed (change :: behind :: rest)
  | rest => (done.reverse ++ rest, changed)
termination_by script => script.length

/-- Gather and shift until nothing is shifted, for at most the given number of rounds. -/
def tidyRounds : Nat → Script → Script
  | 0, script => script
  | rounds + 1, script =>
      let (shifted, changed) := shiftChanges [] false (gather script)
      if changed then tidyRounds rounds shifted else shifted

/--
Gather and shift until nothing is shifted.  Each round that shifts something leaves
fewer pieces or fewer changed code points, which bounds the rounds.
-/
def tidy (script : Script) : Script :=
  tidyRounds (script.changedLength + script.length + 1) script

end Splice.Script
