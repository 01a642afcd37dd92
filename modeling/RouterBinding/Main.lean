import RouterBinding.Binding.Image
import RouterBinding.Operator.Session

/-!
# The operator's tool

The command line around `Session`: it reads the configuration and the image of the store from their
files, lets `Session` decide what happens, and writes back the image and the output.
-/

namespace RouterBinding.Tool

/-- The text of a file, if it can be read. -/
def readText? (path : String) : IO (Option String) := do
  try return some (← IO.FS.readFile path)
  catch _ => return none

/-- Makes the directory that a path leads through. -/
def makeParent (path : String) : IO Unit := do
  let parent := "/".intercalate (FileTree.parentParts path)
  unless parent = "" do IO.FS.createDirAll parent

/-- Opens the store of a file, which is made if it is missing, and its directories with it. -/
def openStore? (path : String) : IO (Option Store) := do
  try
    makeParent path
    IO.FS.withFile path .append fun _ => pure ()
    return Store.ofImage? (← IO.FS.readFile path)
  catch _ => return none

/-- Runs a command on the store of a file. -/
def onStoreFile (path : String) (command : Command) : IO SessionResult := do
  match ← openStore? path with
  | none => return .failed
  | some store =>
    let (result, store) := Session.onStore store command
    IO.FS.writeFile path store.image
    return result

/-- Runs the tool with the words of its command line. -/
def run (words : List String) : IO SessionResult := do
  match Arguments.parse words with
  | .error stop => return Session.stopped stop
  | .ok invocation =>
    let text ← match invocation.configFile with
      | some path => readText? path
      | none => pure none
    match Session.configure invocation text with
    | .error result => return result
    | .ok config =>
      if Session.usesStore invocation.command then
        onStoreFile config.storePath invocation.command
      else return (Session.onStore ∅ invocation.command).1

end RouterBinding.Tool

/-- The command line; a session's exit code is its own. -/
def main (words : List String) : IO UInt32 := do
  let result ← RouterBinding.Tool.run words
  IO.print result.output
  return result.exitCode.toUInt32
