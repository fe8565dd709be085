import Splice.Command.Path

namespace Splice

/-!
# Folders

A folder is a working directory: its files and its empty directories, each by the names
that lead to it.  A path is followed name by name, and every name but the last has to
be that of a directory.  Above the folder nothing is known but that it is there, and
below the root only what every system has.
-/

/-- What a path leads to. -/
inductive Entry where
  | file (content : ByteArray)
  | directory
  | vacant
  | lost
  | blocked
  | tooLong
  | unusable

/-- The names that lead from a folder to something in it. -/
abbrev Location := List Text

/-- What lies in a folder. -/
inductive Node where
  | file (content : ByteArray)
  | directory

/-- The files and empty directories of a working directory. -/
abbrev Folder := List (Location × Node)

namespace Folder

/-- What lies at a location; the directories on the way to something are there too. -/
def node? (folder : Folder) (location : Location) : Option Node :=
  match folder.find? fun item => item.1 = location with
  | some (_, node) => some node
  | none =>
      if location = [] ∨ folder.any (fun item => location.isPrefixOf item.1) then
        some .directory
      else
        none

/-- Where following a path ends: in the folder, above it, or nowhere. -/
inductive Destination where
  | inside (location : Location)
  | above
  | nowhere (entry : Entry)

/-- Follow names from a directory, which is given by its location or lies above the folder. -/
def follow
    (folder : Folder)
    (place : Option Location) :
    List Text → Destination
  | [] =>
      match place with
      | some location => .inside location
      | none => .above
  | name :: rest =>
      if name = ['.', '.'] then
        match place with
        | some [] => folder.follow none rest
        | some location => folder.follow (some location.dropLast) rest
        | none => folder.follow none rest
      else if Path.isLongName name then
        .nowhere .tooLong
      else
        match place with
        | none => .nowhere (if rest = [] then .vacant else .lost)
        | some location =>
            let child := location ++ [name]
            match folder.node? child with
            | some .directory => folder.follow (some child) rest
            | some (.file _) => if rest = [] then .inside child else .nowhere .blocked
            | none => if rest = [] then .inside child else .nowhere .lost

/-- The directories below the root, and the file that is always empty. -/
def system : Folder :=
  (["dev", "null"].map String.toList, .file ByteArray.empty) ::
    ["bin", "etc", "home", "proc", "root", "sys", "tmp", "usr", "var"].map fun name =>
      ([name.toList], .directory)

/-- What lies at the end of a path that has been followed. -/
def found (folder : Folder) : Destination → Entry
  | .above => .directory
  | .nowhere entry => entry
  | .inside location =>
      match folder.node? location with
      | some (.file content) => .file content
      | some .directory => .directory
      | none => .vacant

/-- What a path leads to. -/
def entry (folder : Folder) (path : Path) : Entry :=
  if path.isUnusable then
    .unusable
  else if path.isLong then
    .tooLong
  else if path.root = [] then
    folder.found (folder.follow (some []) path.names)
  else
    system.found (system.follow (some []) path.names)

/-- The folder after a file has been saved; outside the folder nothing is kept. -/
def save (folder : Folder) (path : Path) (content : ByteArray) : Folder :=
  if path.root = [] then
    match folder.follow (some []) path.names with
    | .inside location =>
        (location, .file content) :: folder.filter fun item => item.1 ≠ location
    | _ => folder
  else
    folder

/-- The files that are new or hold something else than before. -/
def changes (before after : Folder) : List (Location × ByteArray) :=
  after.filterMap fun (location, node) =>
    match node with
    | .directory => none
    | .file content =>
        match before.node? location with
        | some (.file earlier) =>
            if earlier.data = content.data then none else some (location, content)
        | _ => some (location, content)

end Folder

end Splice
