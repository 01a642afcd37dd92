/-!
# Arguments of the operator's tool

The arguments are options of the tool, the name of a command, and the options and operands of the
command; the options of the tool may also stand among those of the command, where they count more.
Words are taken from left to right. The value of an option in a word of its own is checked only
when the next option ends it, or at the end of its level, so the version asked for inside a command
is shown before a fault in such a value comes out. `parse` is the main function.
-/

namespace RouterBinding

/-- What the operator asks for. -/
inductive Command where
  | bindings (router : Option String) (json : Bool)
  | releaseSnat (router : String) (agent : Option String) (dropHost : Bool)
  | purgeAgent (agent : String)
  | initConfig
  deriving DecidableEq

/-- A command with the options of the tool. -/
structure Invocation where
  configFile : Option String
  storePath : Option String
  command : Command
  deriving DecidableEq

namespace Arguments

/-- Why no command is run: the words make no sense, or only a text is to be shown. -/
inductive Stop where
  | usage
  | version (title : String)
  | help (title : String)
  deriving DecidableEq

/-- What an option is followed by. -/
inductive Operand where
  | nothing
  | text
  /-- A path, which is not empty. -/
  | path
  | showVersion
  | showHelp
  deriving DecidableEq

/-- An option, known by its long name. -/
structure Switch where
  long : String
  short : Option Char
  operand : Operand

/-- The options that every level knows. -/
def common : List Switch :=
  [⟨"config", some 'c', .path⟩, ⟨"store", none, .path⟩, ⟨"version", some 'V', .showVersion⟩,
    ⟨"help", some 'h', .showHelp⟩]

/-- The tool itself, or one of its commands. -/
structure Level where
  title : String
  switches : List Switch
  /-- How many operands there have to be. -/
  operands : Nat
  commands : List String

def tool : Level :=
  ⟨"dvrctl", common, 0, ["bindings", "release-snat", "purge-agent", "init-config", "help"]⟩

def bindingsLevel : Level :=
  ⟨"dvrctl-bindings", common ++ [⟨"router", some 'r', .text⟩, ⟨"json", none, .nothing⟩], 0, []⟩

def releaseLevel : Level :=
  ⟨"dvrctl-release-snat",
    common ++ [⟨"agent", some 'a', .text⟩, ⟨"drop-host-binding", none, .nothing⟩], 1, []⟩

def purgeLevel : Level := ⟨"dvrctl-purge-agent", common, 1, []⟩

def initLevel : Level := ⟨"dvrctl-init-config", common, 0, []⟩

/-- What has been taken from the words of a level. -/
structure Scan where
  /-- The values of options by their long names. -/
  values : List (String × String) := []
  operands : List String := []
  /-- The last option, if its value was to be a word of its own, with the value once it is there. -/
  pending : Option (Switch × Option String) := none
  /-- Everything after two dashes is an operand. -/
  literal : Bool := false

namespace Scan

def value? (s : Scan) (long : String) : Option String :=
  (s.values.find? (·.1 = long)).map Prod.snd

/-- Gives an option its value, once only. -/
def give (s : Scan) (option : Switch) (value : String) : Except Stop Scan :=
  if (s.value? option.long).isSome || option.operand = .path && value = "" then .error .usage
  else .ok { s with values := s.values ++ [(option.long, value)] }

/-- Ends the last option. -/
def settle (s : Scan) : Except Stop Scan :=
  match s.pending with
  | none => .ok s
  | some (_, none) => .error .usage
  | some (option, some value) => give { s with pending := none } option value

/-- An option that takes no value, or that ends the parsing. -/
def act (s : Scan) (lv : Level) (option : Switch) : Except Stop Scan := do
  let s ← s.settle
  match option.operand with
  | .showVersion => throw (.version lv.title)
  | .showHelp => throw (.help lv.title)
  | _ => s.give option ""

def takesValue (option : Switch) : Bool := option.operand = .text || option.operand = .path

/-- An option with its value in the same word. -/
def attach (s : Scan) (option : Switch) (value : String) : Except Stop Scan := do
  (← s.settle).give option value

/-- An option whose value is the next word. -/
def await (s : Scan) (option : Switch) : Except Stop Scan := do
  return { ← s.settle with pending := some (option, none) }

/-- A word that begins with two dashes, without these. -/
def long (s : Scan) (lv : Level) (cs : List Char) : Except Stop Scan :=
  let name := String.ofList (cs.takeWhile (· ≠ '='))
  match lv.switches.find? (·.long = name), cs.dropWhile (· ≠ '=') with
  | none, _ => .error .usage
  | some option, '=' :: value =>
    if takesValue option then s.attach option (String.ofList value) else .error .usage
  | some option, _ => if takesValue option then s.await option else s.act lv option

/-- A word that begins with one dash, without it: options without value, and last one with a value,
which an equals sign may set off. -/
def short (s : Scan) (lv : Level) : List Char → Except Stop Scan
  | [] => .ok s
  | c :: rest =>
    match lv.switches.find? (·.short = some c) with
    | none => .error .usage
    | some option =>
      if takesValue option then
        match rest with
        | [] => s.await option
        | '=' :: value => s.attach option (String.ofList value)
        | value => s.attach option (String.ofList value)
      else do (← s.act lv option).short lv rest

/-- An operand, if there is room for one more. -/
def operand (s : Scan) (lv : Level) (word : String) : Except Stop Scan := do
  if s.operands.length < lv.operands then
    let s ← s.settle
    return { s with operands := s.operands ++ [word] }
  else throw .usage

/-- Whether a word looks like an option. -/
def isDashed (word : String) : Bool := word.toList.head? = some '-' && word ≠ "-"

/-- The next word of a level, other than the name of a command. -/
def word (s : Scan) (lv : Level) (w : String) : Except Stop Scan :=
  match w.toList with
  | ['-', '-'] => .ok { s with literal := true }
  | '-' :: '-' :: cs => s.long lv cs
  | '-' :: c :: cs => s.short lv (c :: cs)
  | _ => s.operand lv w

end Scan

/-- Takes words up to the name of a command: what was taken, the command and the words after it. -/
def scan (lv : Level) (s : Scan) : List String → Except Stop (Scan × Option (String × List String))
  | [] => .ok (s, none)
  | w :: rest =>
    if s.literal then do scan lv (← s.operand lv w) rest
    else match s.pending with
      | some (option, none) =>
        if Scan.isDashed w then .error .usage
        else scan lv { s with pending := some (option, some w) } rest
      | _ =>
        if w ∈ lv.commands then .ok (s, some (w, rest))
        else do scan lv (← s.word lv w) rest

/-- Takes all words of a command. -/
def scanCommand (lv : Level) (words : List String) : Except Stop Scan := do
  let (s, _) ← scan lv {} words
  let s ← s.settle
  if s.operands.length < lv.operands then throw .usage
  return s

/-- The command with a name, and what was taken of its words. -/
def command (name : String) (words : List String) : Except Stop (Command × Scan) :=
  match name with
  | "bindings" => do
    let s ← scanCommand bindingsLevel words
    return (.bindings (s.value? "router") (s.value? "json").isSome, s)
  | "release-snat" => do
    let s ← scanCommand releaseLevel words
    return (.releaseSnat (s.operands.headD "") (s.value? "agent")
      (s.value? "drop-host-binding").isSome, s)
  | "purge-agent" => do
    let s ← scanCommand purgeLevel words
    return (.purgeAgent (s.operands.headD ""), s)
  | "init-config" => do
    let s ← scanCommand initLevel words
    return (.initConfig, s)
  | "help" =>
    match words with
    | [] => .error (.help tool.title)
    | [topic] =>
      if topic ∈ tool.commands then .error (.help (tool.title ++ "-" ++ topic)) else .error .usage
    | _ => .error .usage
  | _ => .error .usage

/-- The invocation that the words of a command line stand for. -/
def parse (words : List String) : Except Stop Invocation := do
  match ← scan tool {} words with
  | (_, none) => throw .usage
  | (s, some (name, rest)) =>
    let (command, inner) ← command name rest
    let s ← s.settle
    return {
      configFile := (inner.value? "config").or (s.value? "config")
      storePath := (inner.value? "store").or (s.value? "store")
      command := command }

end Arguments

end RouterBinding
