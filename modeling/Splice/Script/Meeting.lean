import Splice.Script.Cut

namespace Splice

/-!
# Where a shortest script passes the middle

A script walks through a grid: a deletion is a step to the right, an insertion a step
down, and a kept character a step along a diagonal.  Two walks go on from opposite
corners, always with as few steps off the diagonals as possible; where they meet, a
shortest script passes.  Diagonals are numbered by column less row, and each walk
keeps the furthest column that it has reached on each diagonal.
-/

/-- How far a walk has come: the furthest column on each diagonal, -1 if not reached. -/
structure Frontier where
  limit : Nat
  columns : Array Int
  low : Nat
  high : Nat

namespace Frontier

/-- A walk that has not begun; it enters diagonal zero from diagonal one at column zero. -/
def start (limit : Nat) : Frontier where
  limit := limit
  columns := (Array.replicate (2 * limit + 2) (-1)).setIfInBounds (limit + 1) 0
  low := 0
  high := 0

/-- The furthest column on a diagonal, -1 if none has been reached. -/
def column (frontier : Frontier) (diagonal : Int) : Int :=
  let index := diagonal + frontier.limit
  if index < 0 then -1 else frontier.columns.getD index.toNat (-1)

/-- The walk with a new furthest column on a diagonal. -/
def reach
    (frontier : Frontier)
    (diagonal column : Int) :
    Frontier :=
  { frontier with
    columns := frontier.columns.setIfInBounds (diagonal + frontier.limit).toNat column }

/-- The column after the next step off the diagonals and before any along them. -/
def enter
    (frontier : Frontier)
    (round : Nat)
    (diagonal : Int) :
    Int :=
  let fromBelow := frontier.column (diagonal - 1)
  let fromAbove := frontier.column (diagonal + 1)
  if diagonal = -round ∨ (diagonal ≠ round ∧ fromBelow < fromAbove) then
    fromAbove
  else
    fromBelow + 1

/-- The diagonals of a round, every other one, without those that have left the grid. -/
def diagonals (frontier : Frontier) (round : Nat) : List Int :=
  let first : Int := frontier.low - round
  let last : Int := round - frontier.high
  if first ≤ last then
    (List.range (((last - first) / 2).toNat + 1)).map fun step : Nat =>
      first + 2 * (step : Int)
  else
    []

end Frontier

namespace Meeting

/-- The column after following equal characters from a column and a row. -/
def follow
    (source target : Array Char)
    (column row : Nat) :
    Nat :=
  if inside : column < source.size ∧ row < target.size then
    if source[column] = target[row] then
      follow source target (column + 1) (row + 1)
    else
      column
  else
    column
termination_by source.size - column

/--
One round of a walk over the given diagonals.  `meets` tells for a diagonal and a
column inside the grid whether the other walk has come as far; the round ends there.
-/
def walk
    (source target : Array Char)
    (round : Nat)
    (meets : Int → Int → Bool)
    (frontier : Frontier) :
    List Int → Frontier × Option (Int × Int)
  | [] => (frontier, none)
  | diagonal :: rest =>
      let entered := frontier.enter round diagonal
      let column : Int :=
        follow source target entered.toNat (entered - diagonal).toNat
      let reached := frontier.reach diagonal column
      if source.size < column then
        walk source target round meets { reached with high := reached.high + 2 } rest
      else if target.size < column - diagonal then
        walk source target round meets { reached with low := reached.low + 2 } rest
      else if meets diagonal column then
        (reached, some (diagonal, column))
      else
        walk source target round meets reached rest

/-- The other walk has reached the same diagonal, as it counts them, and the two have met on it. -/
def met
    (size : Nat)
    (other : Frontier)
    (counted column : Int) :
    Bool :=
  let opposite := other.column counted
  opposite != -1 && size ≤ column + opposite

/--
Both walks by turns, for as many rounds as `rounds` tells.  If the lengths of the
texts differ by an odd number the walks meet in a round of the forward one, otherwise
in a round of the backward one.
-/
def search
    (source target reversedSource reversedTarget : Array Char)
    (forward backward : Frontier)
    (round : Nat) :
    Nat → Option Stretch
  | 0 => none
  | rounds + 1 =>
      let delta : Int := source.size - target.size
      let odd := delta % 2 != 0
      let meetsForward := fun diagonal column =>
        odd && met source.size backward (delta - diagonal) column
      match walk source target round meetsForward forward (forward.diagonals round) with
      | (_, some (diagonal, column)) =>
          some ⟨column.toNat, (column - diagonal).toNat, 0⟩
      | (forward, none) =>
          let meetsBackward := fun diagonal column =>
            !odd && met source.size forward (delta - diagonal) column
          match walk reversedSource reversedTarget round meetsBackward backward
              (backward.diagonals round) with
          | (_, some (diagonal, _)) =>
              let column := forward.column (delta - diagonal)
              some ⟨column.toNat, (column - (delta - diagonal)).toNat, 0⟩
          | (backward, none) =>
              search source target reversedSource reversedTarget forward backward
                (round + 1) rounds

end Meeting

/-- The point where the walks from both corners meet, as a stretch of length zero. -/
def Stretch.meeting? (source target : Text) : Option Stretch :=
  let limit := (source.length + target.length + 1) / 2
  Meeting.search source.toArray target.toArray source.reverse.toArray
    target.reverse.toArray (.start limit) (.start limit) 0 limit

end Splice
