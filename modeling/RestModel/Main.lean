import RestModel.CommandLine.Run

/-! # The program

Runs a command line on the files of the machine. -/

namespace RestModel.CommandLine

def problemOf : IO.Error → FileProblem
  | .noFileOrDirectory _ _ _ => .absent
  | .alreadyExists _ _ _ => .taken
  | .inappropriateType _ 21 _ => .folder
  | .inappropriateType _ 20 _ => .throughFile
  | error => .other (toString error)

def attemptOn (action : IO α) : IO (Except FileProblem α) := do
  try
    return .ok (← action)
  catch error =>
    return .error (problemOf error)

def kindOnMachine? (path : String) : IO (Option EntryKind) := do
  match ← attemptOn do (← IO.FS.realPath path).metadata with
  | .ok metadata => return some (if metadata.type == .dir then .folder else .file)
  | .error _ => return none

/-- Make a folder and those that it stands in. A file where one of these should be made
has the path lead through it. -/
def makeFolderOnMachine (path : String) : IO (Except FileProblem Unit) := do
  match ← attemptOn (IO.FS.createDirAll path) with
  | .error .taken =>
      return .error (if (← kindOnMachine? path).isSome then .taken else .throughFile)
  | result => return result

/-- The access to the files of the machine. No path there is longer than 4096 bytes. -/
def machineFiles : FileAccess IO where
  kind? := kindOnMachine?
  names folder := do return (← (← IO.FS.realPath folder).readDir).toList.map (·.fileName)
  read path := attemptOn (IO.FS.readFile path)
  makeFolder := makeFolderOnMachine
  write path text := attemptOn (IO.FS.writeFile path text)
  depthLimit := 4096

end RestModel.CommandLine

open RestModel RestModel.CommandLine in
def main (arguments : List String) : IO UInt32 := do
  let environment ← Log.Settings.variableNames.filterMapM fun name => do
    return (← IO.getEnv name).map (name, ·)
  let outcome ← run machineFiles (fun name => environment.lookup name) arguments
  for line in outcome.transcript.output do
    IO.println line
  for line in outcome.transcript.notes do
    IO.eprintln line
  return outcome.code.toUInt32
