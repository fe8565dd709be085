import Splice.Edit
import Splice.Script

namespace Splice.Script

/-!
# The edits of a script

The changes of a script are edits in the coordinates of its source, from left to
right.  As a batch they are given in one of two orders: from right to left their
coordinates stay those of the source; from left to right every offset accounts for the
edits before it.
-/

/-- A walk over a script: the position in the source and the changes found, last first. -/
structure Collector where
  position : Nat
  pending : Option Edit
  changes : List Edit
  deriving Repr, DecidableEq

namespace Collector

def start : Collector :=
  ⟨0, none, []⟩

/-- A deletion without an insertion behind it becomes a change of its own. -/
def flush (collector : Collector) : Collector :=
  match collector.pending with
  | some deletion =>
      { collector with pending := none, changes := deletion :: collector.changes }
  | none => collector

/-- A kept piece ends the change before it. -/
def keep (collector : Collector) (text : Text) : Collector :=
  let flushed := collector.flush
  { flushed with position := flushed.position + text.length }

/-- A deleted piece waits for an insertion; it joins a deletion that waits already. -/
def delete (collector : Collector) (text : Text) : Collector :=
  let deletion : Edit :=
    match collector.pending with
    | some deletion => { deletion with length := deletion.length + text.length }
    | none => ⟨collector.position, text.length, []⟩
  { collector with
    position := collector.position + text.length
    pending := some deletion }

/--
An inserted piece completes the deletion that waits.  Otherwise it joins the last
change, if that one ends here, or else is a change of its own.
-/
def insert (collector : Collector) (text : Text) : Collector :=
  match collector.pending with
  | some deletion =>
      { collector with
        pending := none
        changes := { deletion with text := text } :: collector.changes }
  | none =>
      match collector.changes with
      | last :: earlier =>
          if last.stop = collector.position then
            { collector with changes := { last with text := last.text ++ text } :: earlier }
          else
            { collector with changes := ⟨collector.position, 0, text⟩ :: last :: earlier }
      | [] => { collector with changes := [⟨collector.position, 0, text⟩] }

def step (collector : Collector) (piece : Piece) : Collector :=
  match piece.operation with
  | .keep => collector.keep piece.text
  | .delete => collector.delete piece.text
  | .insert => collector.insert piece.text

end Collector

/-- The changes of a script in the coordinates of its source, last first. -/
def changesBackward (script : Script) : List Edit :=
  (script.foldl Collector.step .start).flush.changes

/-- The changes of a script in the coordinates of its source, first first. -/
def changes (script : Script) : List Edit :=
  script.changesBackward.reverse

/-- Changes of one text as a batch: each is moved by the growth of those before it. -/
def drift (growth : Int) : List Edit → List Edit
  | [] => []
  | change :: rest =>
      { change with offset := (change.offset + growth).toNat } ::
        drift (growth + change.growth) rest

/-- The order of the edits in a batch. -/
inductive Order where
  | leftToRight
  | rightToLeft
  deriving Repr, DecidableEq

/-- The changes of a script as a batch of edits of its source. -/
def edits (script : Script) : Order → List Edit
  | .leftToRight => drift 0 script.changes
  | .rightToLeft => script.changesBackward

end Splice.Script
