import Splice.Document
import Splice.Merge.Backward
import Splice.Merge.Forward

namespace Splice

/-!
# Sessions

A session is a document in use: a run of steps that edit it, read it and take
snapshots of its text.  A step that fails leaves the session as it was.
-/

/-- A document and the snapshots taken of it, the first one at the start. -/
structure Session where
  document : Document
  snapshots : List Text

namespace Session

/-- The session of a new document, with snapshot zero. -/
def start (document : Document) : Session where
  document := document
  snapshots := [document.text]

/-- What can be done in a session. -/
inductive Step where
  | get (offset : Int) (length : Option Int)
  | length
  | replace (offset length : Int) (text : Text)
  | set (text : Text)
  | events
  | drain
  | takeSnapshot
  | getFromSnapshot (number : Nat) (offset : Int) (length : Option Int)
  | mergeSince (number : Nat)
  | numberOfLines
  | lineDelimiter (line : Int)
  | defaultDelimiter (platform : Text)
  deriving Repr, DecidableEq

/-- What a step answers. -/
inductive Answer where
  | text (text : Text)
  | number (number : Nat)
  | edited (edit : Edit) (text : Text)
  | batch (edits : List Edit)
  | merged (forward backward : Except RangeError (Option Edit))
  | delimiter (delimiter : Option Text)

/-- Why a step fails. -/
inductive Failure where
  | range (error : RangeError)
  | noSnapshot (number : Nat)
  deriving Repr, DecidableEq

/-- The session with an edited document. -/
def edited
    (session : Session)
    (outcome : Except RangeError (Edit × Document)) :
    Except Failure Answer × Session :=
  match outcome with
  | .ok (edit, document) =>
      (.ok (.edited edit document.text), { session with document := document })
  | .error error => (.error (.range error), session)

/-- An answer that is read off a snapshot. -/
def fromSnapshot
    (session : Session)
    (number : Nat)
    (answer : Text → Except RangeError Answer) :
    Except Failure Answer :=
  match session.snapshots[number]? with
  | some snapshot => (answer snapshot).mapError .range
  | none => .error (.noSnapshot number)

/-- The answer to a step and the session after it. -/
def step (session : Session) : Step → Except Failure Answer × Session
  | .get offset length =>
      (((session.document.text.get offset length).map .text).mapError .range, session)
  | .length => (.ok (.number session.document.text.length), session)
  | .replace offset length text =>
      session.edited (session.document.replace offset length text)
  | .set text => session.edited (session.document.set text)
  | .events => (.ok (.batch session.document.events), session)
  | .drain =>
      let (events, document) := session.document.drain
      (.ok (.batch events), { session with document := document })
  | .takeSnapshot =>
      (.ok (.number session.snapshots.length),
        { session with snapshots := session.snapshots ++ [session.document.text] })
  | .getFromSnapshot number offset length =>
      (session.fromSnapshot number fun snapshot =>
          (snapshot.get offset length).map .text,
        session)
  | .mergeSince number =>
      (session.fromSnapshot number fun snapshot =>
          .ok
            (.merged (mergeForward snapshot session.document.events)
              (mergeBackward session.document.events session.document.text)),
        session)
  | .numberOfLines => (.ok (.number session.document.numberOfLines), session)
  | .lineDelimiter line =>
      (((session.document.lineDelimiter line).map .delimiter).mapError .range, session)
  | .defaultDelimiter platform =>
      (((session.document.defaultDelimiter platform).map fun delimiter =>
            .delimiter (some delimiter)).mapError .range,
        session)

/-- The answers to a run of steps and the session after them. -/
def run (session : Session) : List Step → List (Except Failure Answer) × Session
  | [] => ([], session)
  | next :: rest =>
      let (answer, after) := session.step next
      let (answers, final) := after.run rest
      (answer :: answers, final)

end Session

end Splice
