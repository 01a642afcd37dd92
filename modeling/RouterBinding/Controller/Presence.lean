import RouterBinding.Controller.LeastRouters
import RouterBinding.Json.Record

/-!
# Distributed routers follow their ports

A serviced port brings the distributed routers on its subnets to its host. When it goes, the
routers that no other serviced port on the host needs are found, their interfaces are unlinked
there, and a `Removal` for each tells what is to be removed.
-/

namespace RouterBinding

open Json

/-- A router that is no longer needed on a host. -/
structure Removal where
  router : String
  host : String
  agent : String
  deriving DecidableEq

namespace Removal

def toTree (r : Removal) : Tree :=
  .record [("router_id", .text r.router), ("host", .text r.host), ("agent_id", .text r.agent)]

def ofTree? (tree : Tree) : Option Removal := do
  let r ← tree.record? [⟨"router_id", false⟩, ⟨"host", false⟩, ⟨"agent_id", false⟩]
  some {
    router := ← r.required? "router_id" Tree.text?
    host := ← r.required? "host" Tree.text?
    agent := ← r.required? "agent_id" Tree.text? }

end Removal

namespace Controller

open RouterBinding.Action

/-- Binds a router to an agent unless it is bound there. -/
def ensureHost (agent : Agent) (router : String) : Action Unit := do
  if !(← consult (·.hasHost router agent.id)) then
    let _ ← place router [agent]

/-- Brings the routers that a port needs to an agent on a host, and tells the host of them. -/
def bringTo (ctx : Context) (port : Port) (host : String) (agent : Agent) :
    Action (List String) := do
  let routers ← ask (·.routersOn ctx port.fixedIps)
  routers.forM (ensureHost agent)
  if !routers.isEmpty then notify (.routersUpdatedOnHost routers host)
  return routers

/-- Brings the routers that a port needs to its host: the routers that the host is told of. A port
that is not bound, or bound to a host without agent, brings none. -/
def bringRouters (ctx : Context) (port : Port) : Action (List String) := do
  match port.host with
  | none => return []
  | some host =>
    match ← ask (·.agentOnHost? host) with
    | none => return []
    | some agent => bringTo ctx port host agent

/-- Unlinks an interface on a host, if it is linked there. -/
def unlink (host : String) (interface : Port) : Action Unit := do
  match ← ask (·.link? interface.id host) with
  | some link => change (·.updateLink { link with router := none })
  | none => return ()

/-- Unlinks a router from a host unless a port other than the leaving one needs it there. Without
an agent that could act on the removal everything stays. -/
def tearDownRouter (ctx : Context) (port host : String) (agent : Option Agent)
    (router : String) : Action (Option Removal) := do
  if ← ask (·.needsRouter ctx host router (some port)) then return none
  match agent with
  | none => return none
  | some agent =>
    let interfaces ← ask (·.interfacesOf ctx router)
    interfaces.forM (unlink host)
    return some ⟨router, host, agent.id⟩

/-- The host that a port leaves: the given one, or that of the port. -/
def leftHost (port : String) (host : Option String) : Action (Option String) := do
  match host.filter (· ≠ "") with
  | some host => return some host
  | none => ask (·.hostOfPort? port)

/-- Finds the routers that a host no longer needs once a port is gone from it, and unlinks their
interfaces there. The routers may belong to others, so the search sees everything. -/
def tearDown (ctx : Context) (port : String) (host : Option String) :
    Action (List Removal) := do
  let routers ← ask (·.routersOfPort ctx.elevated port)
  match ← leftHost port host with
  | none => return []
  | some host =>
    if routers.isEmpty then return []
    let agent ← ask (·.agentOnHost? host)
    let removals ← routers.mapM (tearDownRouter ctx.elevated port host agent)
    return removals.filterMap id

end Controller

end RouterBinding
