import RouterBinding.Config.Basic
import RouterBinding.Toml.Document
import RouterBinding.Toml.Text

/-!
# Configuration files

A configuration is read from a TOML document and written as one. A document has no integer beyond
63 bits, so a configuration with a larger seed has no file. A part may be given as a table, or as
an array that begins with its member; a moment in time has no member that any part knows.
-/

namespace RouterBinding.Config

open Toml (Value)

/-- The member of a part that must hold a text. -/
def textMember? (name : String) : Value → Option String
  | .table members => (Value.member? members name).bind Value.text?
  | .array (first :: _) => first.text?
  | _ => none

/-- A seed. -/
def seedOfValue? (v : Value) : Option UInt64 := do
  let n ← v.int?
  if 0 ≤ n then some n.toNat.toUInt64 else none

/-- The member of a part that may hold a seed. -/
def seedMember? (name : String) : Value → Option (Option UInt64)
  | .table members =>
    match Value.member? members name with
    | none => some none
    | some v => (seedOfValue? v).map some
  | .array (first :: _) => (seedOfValue? first).map some
  | .moment _ => some none
  | _ => none

/-- A part, or what stands for it if it is left out. -/
def part? {α : Type} (members : List (String × Value)) (name : String) (fallback : α)
    (read? : Value → Option α) : Option α :=
  match Value.member? members name with
  | none => some fallback
  | some v => read? v

/-- The configuration of a document. -/
def ofMembers? (members : List (String × Value)) : Option Config := do
  some {
    storePath := ← part? members "store" default.storePath (textMember? "path")
    seed := ← part? members "scheduler" none (seedMember? "snat_selection_seed")
    logFilter := ← part? members "logging" default.logFilter (textMember? "filter") }

/-- The configuration of the text of a file. -/
def ofText? (text : String) : Option Config := (Toml.parse? text).bind ofMembers?

/-- The line that gives a key a text. -/
def textLine (key : String) (text : String) : List Char :=
  key.toList ++ " = ".toList ++ Toml.writeText text.toList ++ ['\n']

/-- The line that gives the seed, if there is one. -/
def seedLine : Option UInt64 → List Char
  | some seed => "snat_selection_seed = ".toList ++ Nat.toDigits 10 seed.toNat ++ ['\n']
  | none => []

/-- The text of the file of a configuration, if it has one. -/
def toText? (c : Config) : Option String :=
  if c.seed.any (Int64.maxValue.toInt < ·.toNat) then none
  else some (String.ofList ("[store]\n".toList ++ textLine "path" c.storePath ++
    "\n[scheduler]\n".toList ++ seedLine c.seed ++
    "\n[logging]\n".toList ++ textLine "filter" c.logFilter))

end RouterBinding.Config
