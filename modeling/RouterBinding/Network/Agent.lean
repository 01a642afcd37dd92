import RouterBinding.Json.Record
import RouterBinding.Json.Value

/-!
# Agents

An agent runs routers on one host and reports a free-form configuration in its heartbeat.
`Agent.settings` is the typed view of that report, in which a missing or malformed entry falls back
to its default and an empty text counts as unset.
-/

namespace RouterBinding

open Json

inductive AgentMode where
  | legacy
  | dvr
  | dvrSnat
  deriving DecidableEq

namespace AgentMode

def name : AgentMode → String
  | .legacy => "legacy"
  | .dvr => "dvr"
  | .dvrSnat => "dvr_snat"

def ofName? (s : String) : Option AgentMode :=
  if s = "legacy" then some .legacy
  else if s = "dvr" then some .dvr
  else if s = "dvr_snat" then some .dvrSnat
  else none

/-- What a reader says about a name that is no mode. -/
def unknownMessage (s : String) : String := "unknown agent mode: " ++ s

/-- A mode is written as its name and read as its name or as an object of the name and null. -/
def ofTree? : Tree → Option AgentMode
  | .string (some s) => ofName? s
  | .object [(some s, .null)] => ofName? s
  | _ => none

theorem of_name_name (m : AgentMode) : ofName? m.name = some m := by
  cases m <;> rfl

end AgentMode

/-- What an agent is set up to do. -/
structure AgentSettings where
  mode : AgentMode := .legacy
  /-- The only router that the agent runs. -/
  pinnedRouter : Option String := none
  /-- The agent runs routers without a gateway. -/
  acceptsInternal : Bool := true
  /-- The only network that the gateways of the agent's routers are on. -/
  externalNetwork : Option String := none
  deriving DecidableEq

namespace AgentSettings

/-- The text reported under a name, unless it is empty. -/
def reportedText (report : Table String Value) (name : String) : Option String :=
  ((report.get? name).bind Value.text?).filter (· ≠ "")

/-- The settings that a report stands for. -/
def ofReport (report : Table String Value) : AgentSettings where
  mode := (((report.get? "agent_mode").bind Value.text?).bind AgentMode.ofName?).getD .legacy
  pinnedRouter := reportedText report "router_id"
  acceptsInternal :=
    ((report.get? "handle_internal_only_routers").bind Value.bool?).getD true
  externalNetwork := reportedText report "gateway_external_network_id"

end AgentSettings

structure Agent where
  id : String
  host : String
  adminUp : Bool
  /-- Heartbeats arrive in time. -/
  alive : Bool
  report : Table String Value

namespace Agent

def settings (a : Agent) : AgentSettings := .ofReport a.report

/-- An agent takes on routers while it is up and alive. -/
def isActive (a : Agent) : Bool := a.adminUp && a.alive

/-- An active agent that reports nothing but its mode. -/
def reporting (id host mode : String) : Agent :=
  ⟨id, host, true, true, Table.ofRows [("agent_mode", .string mode)]⟩

/-- How deep arrays and objects nest in the report of an agent, the report included. -/
def reportRoom : Nat := 126

def toTree (a : Agent) : Tree :=
  .record [("id", .text a.id), ("host", .text a.host), ("admin_state_up", .bool a.adminUp),
    ("alive", .bool a.alive), ("configurations", Value.tableTree a.report)]

def ofTree? (tree : Tree) : Option Agent := do
  let r ← tree.record? [⟨"id", false⟩, ⟨"host", false⟩, ⟨"admin_state_up", false⟩,
    ⟨"alive", true⟩, ⟨"configurations", true⟩]
  some {
    id := ← r.required? "id" Tree.text?
    host := ← r.required? "host" Tree.text?
    adminUp := ← r.required? "admin_state_up" Tree.bool?
    alive := ← r.default? "alive" true Tree.bool?
    report := ← r.default? "configurations" ∅ (Value.tableOfTree? reportRoom) }

end Agent

end RouterBinding
