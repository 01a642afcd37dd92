import RouterBinding.Json.Record
import RouterBinding.Json.Reader

/-!
# Rows of the binding store

A `SnatBinding` names the agent that runs the centralized address translation of a router, a
`HostBinding` an agent whose host runs the router itself. Each is stored as JSON text under a key:
the router id alone for the former, and for the latter `HostBinding.key`, where the length of the
router id keeps apart pairs of ids that contain the separator.
-/

namespace RouterBinding

open Json

structure SnatBinding where
  router : String
  agent : String
  /-- The host of the agent when it was bound. -/
  host : String
  /-- The gateway port that is served. -/
  gatewayPort : Option String
  deriving DecidableEq

structure HostBinding where
  router : String
  agent : String
  deriving DecidableEq

namespace SnatBinding

def key (b : SnatBinding) : String := b.router

def toTree (b : SnatBinding) : Tree :=
  .record [("router_id", .text b.router), ("l3_agent_id", .text b.agent), ("host_id", .text b.host),
    ("csnat_gw_port_id", .optional b.gatewayPort)]

def ofTree? (tree : Tree) : Option SnatBinding := do
  let r ← tree.record? [⟨"router_id", false⟩, ⟨"l3_agent_id", false⟩, ⟨"host_id", false⟩,
    ⟨"csnat_gw_port_id", false⟩]
  some {
    router := ← r.required? "router_id" Tree.text?
    agent := ← r.required? "l3_agent_id" Tree.text?
    host := ← r.required? "host_id" Tree.text?
    gatewayPort := ← r.optional? "csnat_gw_port_id" Tree.text? }

def toText (b : SnatBinding) : String := b.toTree.compact

def ofText? (text : String) : Option SnatBinding := (Tree.parse? text).bind ofTree?

end SnatBinding

namespace HostBinding

/-- The length of the router id in bytes, the router id and the agent id, with colons between. -/
def key (b : HostBinding) : String :=
  Nat.repr b.router.utf8ByteSize ++ ":" ++ b.router ++ ":" ++ b.agent

def toTree (b : HostBinding) : Tree :=
  .record [("router_id", .text b.router), ("l3_agent_id", .text b.agent)]

def ofTree? (tree : Tree) : Option HostBinding := do
  let r ← tree.record? [⟨"router_id", false⟩, ⟨"l3_agent_id", false⟩]
  some {
    router := ← r.required? "router_id" Tree.text?
    agent := ← r.required? "l3_agent_id" Tree.text? }

def toText (b : HostBinding) : String := b.toTree.compact

def ofText? (text : String) : Option HostBinding := (Tree.parse? text).bind ofTree?

end HostBinding

end RouterBinding
