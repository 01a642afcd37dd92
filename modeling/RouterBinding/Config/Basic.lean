import RouterBinding.Json.Number
import RouterBinding.Json.Record

/-!
# Configuration

Where the bindings are stored, the seed of the choice among agents, and what is logged. A part that
is left out has its default; the choice is not repeatable unless there is a seed.
-/

namespace RouterBinding

open Json

structure Config where
  storePath : String := "/var/lib/dvrgrid/bindings.redb"
  seed : Option UInt64 := none
  logFilter : String := "info,dvrgrid=debug"
  deriving DecidableEq

namespace Config

def default : Config := {}

/-- A seed: an integer of 64 bits without a sign. -/
def seedOfTree? : Tree → Option UInt64
  | .number n => do
    let m ← n.toInt?
    if 0 ≤ m ∧ m < UInt64.size then some m.toNat.toUInt64 else none
  | _ => none

/-- The only member of a part that must hold a text. -/
def textPart? (name : String) (tree : Tree) : Option String := do
  let r ← tree.record? [⟨name, false⟩]
  r.required? name Tree.text?

def seedPart? (tree : Tree) : Option (Option UInt64) := do
  let r ← tree.record? [⟨"snat_selection_seed", false⟩]
  r.optional? "snat_selection_seed" seedOfTree?

def toTree (c : Config) : Tree :=
  .record [("store", .record [("path", .text c.storePath)]),
    ("scheduler", .record [("snat_selection_seed", match c.seed with
      | some seed => .int seed.toNat
      | none => .null)]),
    ("logging", .record [("filter", .text c.logFilter)])]

def ofTree? (tree : Tree) : Option Config := do
  let r ← tree.record? [⟨"store", true⟩, ⟨"scheduler", true⟩, ⟨"logging", true⟩]
  some {
    storePath := ← r.default? "store" default.storePath (textPart? "path")
    seed := ← r.default? "scheduler" none seedPart?
    logFilter := ← r.default? "logging" default.logFilter (textPart? "filter") }

end Config

end RouterBinding
