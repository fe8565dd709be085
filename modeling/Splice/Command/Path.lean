import Splice.Text

namespace Splice

/-!
# Paths

A path is kept in its plain form: empty names and single dots are left out, double dots
stay, and of several slashes at the start one counts, except that exactly two stay two.
The empty path is the current directory.
-/

/-- The slashes at the start of a path and the names behind them. -/
structure Path where
  root : Text
  names : List Text
  deriving Repr, DecidableEq

namespace Path

/-- The parts of a text between slashes. -/
def split (text : Text) : List Text :=
  text.foldr
    (fun c parts =>
      if c = '/' then
        [] :: parts
      else
        match parts with
        | [] => [[c]]
        | part :: rest => (c :: part) :: rest)
    [[]]

/-- The slashes that a path keeps at its start. -/
def rootOf (text : Text) : Text :=
  let slashes := text.takeWhile (· == '/')
  if slashes.length = 2 then slashes else slashes.take 1

/-- The path that a text writes. -/
def ofText (text : Text) : Path where
  root := rootOf text
  names := (split text).filter fun name => name ≠ [] ∧ name ≠ ['.']

def toText (path : Path) : Text :=
  let written := path.root ++ ['/'].intercalate path.names
  if written = [] then ['.'] else written

/-- The path without its last name. -/
def parent (path : Path) : Path :=
  { path with names := path.names.dropLast }

/-- How many bytes a text takes in UTF-8. -/
def byteCount (text : Text) : Nat :=
  (String.ofList text).utf8ByteSize

/-- A name is longer than the names of files may be. -/
def isLongName (name : Text) : Bool :=
  255 < byteCount name

/-- The path is longer than paths may be. -/
def isLong (path : Path) : Bool :=
  4095 < byteCount path.toText

/-- No file can have the path, because there is a null character in it. -/
def isUnusable (path : Path) : Bool :=
  path.names.any fun name => name.contains '\x00'

end Path

end Splice
