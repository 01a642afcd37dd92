import RouterBinding.Config.File
import RouterBinding.Operator.Arguments
import RouterBinding.Operator.Files
import RouterBinding.Operator.LogFilter
import RouterBinding.Operator.Repair
import RouterBinding.Operator.Report

/-!
# Sessions of the operator's tool

A session reads its arguments, then the configuration, then the log filter, and then runs the
command on the store. The first of these that fails ends it: with 2 if the arguments make no sense,
with 101 if the log filter is cut inside of a character, otherwise with 1.
-/

namespace RouterBinding

/-- How a session ended, and what it wrote. -/
structure SessionResult where
  exitCode : Nat
  output : String
  deriving DecidableEq

namespace SessionResult

def done (output : String) : SessionResult := ⟨0, output⟩

def failed : SessionResult := ⟨1, ""⟩

def misused : SessionResult := ⟨2, ""⟩

/-- The session broke off. -/
def broken : SessionResult := ⟨101, ""⟩

end SessionResult

namespace Session

/-- The version of the tool and of all its commands. -/
def version : String := "0.1.0"

/-- What is shown when the arguments stop before a command. -/
def stopped : Arguments.Stop → SessionResult
  | .usage => .misused
  | .version title => .done (title ++ " " ++ version ++ "\n")
  | .help title => .done ("Usage: " ++ title ++ " [OPTIONS]\n")

/-- What the release of a router's SNAT binding is reported as. -/
def releaseOutput (router : String) : Option Released → String
  | none => "No matching SNAT binding for router " ++ router ++ "\n"
  | some r =>
    "✓ Released SNAT of router " ++ r.binding.router ++ " from agent " ++ r.binding.agent ++
      " (" ++ r.binding.host ++ ")\n" ++
    if r.hostDropped then
      "✓ Dropped host binding of router " ++ r.binding.router ++ " on agent " ++
        r.binding.agent ++ "\n"
    else "  The agent keeps its host binding; pass --drop-host-binding to remove it.\n"

/-- What the purge of an agent is reported as. -/
def purgeOutput (agent : String) (snat hosts : Nat) : String :=
  "✓ Purged agent " ++ agent ++ ": " ++ Nat.repr snat ++ " SNAT binding(s), " ++
    Nat.repr hosts ++ " host binding(s)\n"

/-- Runs a transaction and shows its answer. -/
def transact {α : Type} (t : Transaction StoreError α) (render : α → String) (s : Store) :
    SessionResult × Store :=
  match s.commit t with
  | (.ok a, s) => (.done (render a), s)
  | (.error _, s) => (.failed, s)

/-- Runs a command on an open store. -/
def onStore (s : Store) : Command → SessionResult × Store
  | .bindings router json =>
    match Report.collect s router with
    | .ok report => (.done (if json then report.json ++ "\n" else report.table), s)
    | .error _ => (.failed, s)
  | .releaseSnat router agent dropHost =>
    transact (Transaction.release router agent dropHost) (releaseOutput router) s
  | .purgeAgent agent =>
    transact (Transaction.deleteAgent agent) (fun counts => purgeOutput agent counts.1 counts.2) s
  | .initConfig => (.done (Config.default.toText?.getD ""), s)

/-- The configuration of an invocation, from the text of its file if it names one. -/
def configOf? (i : Invocation) (fileText : Option String) : Option Config := do
  let config ← match i.configFile with
    | some _ => fileText.bind Config.ofText?
    | none => some .default
  some { config with storePath := i.storePath.getD config.storePath }

/-- How a session ends whose log filter is none. -/
def filterRefused : FilterError → SessionResult
  | .malformed => .failed
  | .brokenCharacter => .broken

/-- The configuration of an invocation with its log filter checked, or how the session ends. -/
def configure (i : Invocation) (fileText : Option String) : Except SessionResult Config :=
  match configOf? i fileText with
  | none => .error .failed
  | some config =>
    match LogFilter.check config.logFilter with
    | .ok () => .ok config
    | .error e => .error (filterRefused e)

/-- Whether a command needs the store. -/
def usesStore : Command → Bool
  | .initConfig => false
  | _ => true

/-- Runs a command with its configuration. The directories of the store are made first, and a store
that could be opened is there afterwards. -/
def execute (config : Config) (command : Command) (t : FileTree) : SessionResult × FileTree :=
  if usesStore command then
    let (t, place) := t.locate true config.storePath
    match place.bind fun p => (t.storeAt? p).map fun s => (p, s) with
    | none => (.failed, t)
    | some (p, s) =>
      let (result, s) := onStore s command
      (result, t.write p (.store s))
  else ((onStore ∅ command).1, t)

/-- Runs the tool with the words of a command line. -/
def run (words : List String) (t : FileTree) : SessionResult × FileTree :=
  match Arguments.parse words with
  | .error stop => (stopped stop, t)
  | .ok i =>
    match configure i (i.configFile.bind t.readText?) with
    | .error result => (result, t)
    | .ok config => execute config i.command t

end Session

end RouterBinding
