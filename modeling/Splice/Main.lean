import Splice.Command.Run

open Splice

/-!
# The command line

The program looks up the paths that the command line names, runs the command on what it
found, and then prints, saves and exits as the outcome says.
-/

/-- The paths that a command reads or saves to. -/
def namedPaths : Command → List Path
  | .merge source edits _ output => [source, edits, output].filterMap id
  | .diff source target _ _ _ _ => [source, target].filterMap id
  | .markup source edits _ output => [source, edits, output].filterMap id
  | .delimiter input => [input].filterMap id

/-- What a name on the disk stands for: a directory, something else, or nothing. -/
def isDirectory? (name : String) : IO (Option Bool) := do
  try
    let resolved ← IO.FS.realPath name
    return some (← resolved.isDir)
  catch _ =>
    return none

/-- What is found on the disk under a path that leads to nothing, by what is around it. -/
def lookAround (path : Path) : IO Entry := do
  match ← isDirectory? (String.ofList path.parent.toText) with
  | some true => return if path.names.getLast?.any Path.isLongName then .tooLong else .vacant
  | some false => return .blocked
  | none => return .lost

/-- What is found on the disk under a path. -/
def lookUp (path : Path) : IO Entry := do
  if path.isUnusable then
    return .unusable
  else if path.isLong then
    return .tooLong
  else
    let name := String.ofList path.toText
    match ← isDirectory? name with
    | some true => return .directory
    | some false => return .file (← IO.FS.readBinFile name)
    | none => lookAround path

/-- The disk as far as a command line names parts of it. -/
def lookUpAll (arguments : List Text) : IO Disk := do
  match Invocation.ofTexts? arguments with
  | some (.run _ command) =>
      let found ← (namedPaths command).mapM fun path => return (path, ← lookUp path)
      return fun path =>
        match found.find? fun item => item.1 = path with
        | some (_, entry) => entry
        | none => .lost
  | _ => return fun _ => .lost

/-- The status of a program that ends in the middle of its work. -/
def crashStatus : Nat := 1

/-- The cause of a crash as a last notice. -/
def lastNotice : Except Stop Unit → List Text
  | .error (.crash cause) => [cause.message.toList]
  | _ => []

/-- Run the program and do what its transcript says. -/
def main (arguments : List String) : IO UInt32 := do
  let texts := arguments.map String.toList
  let disk ← lookUpAll texts
  let outcome := runProgram Host.standard disk texts
  let errors ← IO.getStderr
  for record in outcome.transcript.records do
    errors.putStrLn (String.ofList record.line)
  for (path, content) in outcome.transcript.saved do
    IO.FS.writeFile (String.ofList path.toText) (String.ofList content)
  for notice in outcome.transcript.notices.toList ++ lastNotice outcome.ending do
    errors.putStrLn (String.ofList notice)
  IO.print (String.ofList outcome.printed)
  return UInt32.ofNat (outcome.status?.getD crashStatus)
