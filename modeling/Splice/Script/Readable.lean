import Splice.Script.Compare
import Splice.Text.Alphanumeric
import Splice.Text.Blank

namespace Splice.Script

/-!
# Making scripts readable

A shortest script may keep short pieces by chance.  Three passes make it readable:
kept pieces that are outweighed by the changes around them are changed too, lone
changes slide to the best boundary, and the overlap of a deletion with the insertion
behind it is kept.
-/

/-! ## Kept pieces that are outweighed -/

/-- The lengths of the changes on both sides of the last kept piece. -/
structure Balance where
  kept : Text
  insertedBefore : Nat
  deletedBefore : Nat
  insertedBehind : Nat
  deletedBehind : Nat

namespace Balance

def start : Balance :=
  ⟨[], 0, 0, 0, 0⟩

/-- A kept piece: the changes behind the last one lie before this one. -/
def keep (balance : Balance) (text : Text) : Balance where
  kept := text
  insertedBefore := balance.insertedBehind
  deletedBefore := balance.deletedBehind
  insertedBehind := 0
  deletedBehind := 0

/-- A piece of a change behind the last kept piece. -/
def change (balance : Balance) (piece : Piece) : Balance :=
  match piece.operation with
  | .insert =>
      { balance with insertedBehind := balance.insertedBehind + piece.text.length }
  | _ =>
      { balance with deletedBehind := balance.deletedBehind + piece.text.length }

/-- The kept piece is no longer than the larger change on either side. -/
def outweighs (balance : Balance) : Bool :=
  let length := balance.kept.length
  balance.kept != [] &&
    length ≤ max balance.insertedBefore balance.deletedBefore &&
    length ≤ max balance.insertedBehind balance.deletedBehind

end Balance

/-- A script parted at a place: the pieces before it in reverse order, and those behind it. -/
abbrev Parted := Script × Script

/-- Step back until right behind a kept piece, with `skipped` kept pieces passed on the way. -/
def stepBack (skipped : Nat) : Script → Script → Parted
  | [], behind => ([], behind)
  | piece :: before, behind =>
      if piece.isKept then
        match skipped with
        | 0 => (piece :: before, behind)
        | fewer + 1 => stepBack fewer before (piece :: behind)
      else
        stepBack skipped before (piece :: behind)

/--
Delete and insert again the nearest kept piece on the left, and step back behind the
second kept piece before it.
-/
def dissolveNearest : Script → Script → Parted
  | [], behind => ([], behind)
  | piece :: before, behind =>
      if piece.isKept then
        stepBack 1 before (.delete piece.text :: .insert piece.text :: behind)
      else
        dissolveNearest before (piece :: behind)

/-- Go on to the first kept piece that is outweighed and dissolve it. -/
def dissolveNext?
    (balance : Balance)
    (before : Script) :
    Script → Option Parted
  | [] => none
  | piece :: behind =>
      if piece.isKept then
        dissolveNext? (balance.keep piece.text) (piece :: before) behind
      else
        let balance := balance.change piece
        if balance.outweighs then
          some (dissolveNearest before (piece :: behind))
        else
          dissolveNext? balance (piece :: before) behind

/-- Dissolve outweighed kept pieces, at most as many as `count`. -/
def dissolveRounds : Nat → Parted → Script
  | 0, (before, behind) => before.reverse ++ behind
  | count + 1, (before, behind) =>
      match dissolveNext? .start before behind with
      | none => before.reverse ++ behind
      | some parted => dissolveRounds count parted

/-- Dissolve all outweighed kept pieces; each round leaves one kept piece less. -/
def dissolve (script : Script) : Script :=
  dissolveRounds (script.filter Piece.isKept).length ([], script)

/-! ## Sliding changes to boundaries -/

/-- The class of a character where a boundary is judged. -/
inductive BoundaryClass where
  | alphanumeric
  | lineBreak
  | space
  | other
  deriving Repr, DecidableEq

/-- Carriage returns and line feeds are line breaks. -/
def boundaryClass (c : Char) : BoundaryClass :=
  if isAlphanumeric c then
    .alphanumeric
  else if c = '\n' ∨ c = '\r' then
    .lineBreak
  else if isSpace c then
    .space
  else
    .other

/-- The text, given in reverse, ends with a blank line. -/
def endsBlank : Text → Bool
  | '\n' :: '\n' :: _ => true
  | '\n' :: '\r' :: '\n' :: _ => true
  | _ => false

/-- The text starts with a blank line. -/
def startsBlank : Text → Bool
  | '\n' :: '\n' :: _ => true
  | '\n' :: '\r' :: '\n' :: _ => true
  | '\r' :: '\n' :: '\n' :: _ => true
  | '\r' :: '\n' :: '\r' :: '\n' :: _ => true
  | _ => false

/--
How good a place for a change the boundary between two texts is, from 0 inside a word
to 6 at an edge.  The text before the boundary is given in reverse.
-/
def boundaryScore (before behind : Text) : Nat :=
  match before, behind with
  | [], _ => 6
  | _, [] => 6
  | last :: _, first :: _ =>
      let lastClass := boundaryClass last
      let firstClass := boundaryClass first
      if endsBlank before || startsBlank behind then
        5
      else if lastClass = .lineBreak ∨ firstClass = .lineBreak then
        4
      else if lastClass = .other ∧ firstClass = .space then
        3
      else if lastClass = .space ∨ firstClass = .space then
        2
      else if lastClass = .other ∨ firstClass = .other then
        1
      else
        0

/-- A change between two kept texts, of which the one before is in reverse. -/
structure Slot where
  before : Text
  change : Text
  behind : Text
  deriving Repr, DecidableEq

namespace Slot

/-- The slot of a change, moved as far to the left as the texts allow. -/
def leftmost (before change behind : Text) : Slot :=
  let shared := Text.commonSuffix before change
  { before := (Text.dropEnd before shared.length).reverse
    change := shared ++ Text.dropEnd change shared.length
    behind := shared ++ behind }

/-- The slot moved to the right by one character, if the texts allow it. -/
def slide? (slot : Slot) : Option Slot :=
  match slot.change, slot.behind with
  | x :: change, y :: behind =>
      if x = y then some ⟨x :: slot.before, change ++ [x], behind⟩ else none
  | _, _ => none

def score (slot : Slot) : Nat :=
  boundaryScore slot.before slot.change +
    boundaryScore slot.change.reverse slot.behind

/-- Sliding takes one character from the kept text behind. -/
theorem length_of_slide?
    {slot next : Slot}
    (moved : slot.slide? = some next) :
    next.behind.length < slot.behind.length := by
  unfold slide? at moved
  split at moved
  · next behindShape =>
      split at moved
      · cases moved
        simp [behindShape]
      · cases moved
  · cases moved

/-- The slot with the best score from here on; of equal ones the rightmost. -/
def best (held slot : Slot) : Slot :=
  match _moved : slot.slide? with
  | none => held
  | some next => best (if held.score ≤ next.score then next else held) next
termination_by slot.behind.length
decreasing_by
  exact length_of_slide? (by assumption)

/-- The best slot for a change between two kept texts. -/
def choose (before change behind : Text) : Slot :=
  let slot := leftmost before change behind
  best slot slot

end Slot

/--
Slide every change between two kept pieces to its best slot; a kept piece that becomes
empty goes.  `done` holds the pieces before, in reverse.
-/
def slideChanges (done : Script) : Script → Script
  | before :: change :: behind :: rest =>
      if before.isKept && behind.isKept then
        let slot := Slot.choose before.text change.text behind.text
        let left := slot.before.reverse
        let moved : Piece := ⟨change.operation, slot.change⟩
        if left = before.text then
          slideChanges (before :: done) (change :: behind :: rest)
        else if left = [] then
          slideChanges done (moved :: .keep slot.behind :: rest)
        else if slot.behind = [] then
          slideChanges done (.keep left :: moved :: rest)
        else
          slideChanges (.keep left :: done) (moved :: .keep slot.behind :: rest)
      else
        slideChanges (before :: done) (change :: behind :: rest)
  | rest => done.reverse ++ rest
termination_by script => script.length

/-! ## Overlaps of deletions and insertions -/

/--
Where the overlap of a deletion and the insertion behind it is at least half as long
as one of them, the overlap is kept.  `done` holds the pieces before, in reverse.
-/
def keepOverlaps (done : Script) : Script → Script
  | ⟨.delete, deleted⟩ :: ⟨.insert, inserted⟩ :: rest =>
      let ahead := Text.overlap deleted inserted
      let back := Text.overlap inserted deleted
      let large := fun overlap =>
        deleted.length ≤ 2 * overlap || inserted.length ≤ 2 * overlap
      if back ≤ ahead then
        if large ahead then
          keepOverlaps
            (.insert (inserted.drop ahead) :: .keep (inserted.take ahead) ::
              .delete (Text.dropEnd deleted ahead) :: done)
            rest
        else
          keepOverlaps (.insert inserted :: .delete deleted :: done) rest
      else if large back then
        keepOverlaps
          (.delete (deleted.drop back) :: .keep (deleted.take back) ::
            .insert (Text.dropEnd inserted back) :: done)
          rest
      else
        keepOverlaps (.insert inserted :: .delete deleted :: done) rest
  | piece :: rest => keepOverlaps (piece :: done) rest
  | [] => done.reverse

/-- The readable form of a script. -/
def readable (script : Script) : Script :=
  let dissolved := dissolve script
  let settled := if dissolved = script then script else tidy dissolved
  keepOverlaps [] (slideChanges [] settled)

/-- The readable script that turns `source` into `target`. -/
def between (source target : Text) : Script :=
  readable (compare source target)

end Splice.Script
