import RouterBinding.Controller.Basic

/-!
# Placement by the number of routers

Routers of any kind are placed on the agent with the fewest host bindings, of equal ones on that
with the least id. Agents that the router is bound to are passed over. The requests here know
nothing of distributed routers.
-/

namespace RouterBinding

namespace Store

/-- The number of routers bound to an agent. -/
def load (s : Store) (agent : String) : Except StoreError Nat :=
  (s.hostsOfAgent agent).map List.length

/-- Whether a ranked agent goes before another: by load, then by id. -/
def before (a b : Nat × String) : Bool := a.1 < b.1 || (a.1 = b.1 && a.2 < b.2)

/-- The first of some ranked agents. -/
def first : List (Nat × String) → Option (Nat × String)
  | [] => none
  | a :: rest =>
    match first rest with
    | some b => if before b a then some b else some a
    | none => some a

/-- The agents of the pool that a router is not bound to, with their loads. -/
def ranked (s : Store) (router : String) (pool : List Agent) :
    Except StoreError (List (Nat × String)) := do
  let bound ← s.hostsOfRouter router
  let free := pool.filter fun agent => bound.all fun b => b.agent ≠ agent.id
  free.mapM fun agent => return (← s.load agent.id, agent.id)

/-- The agent of the pool with the fewest routers that a router is not bound to. -/
def leastLoaded? (s : Store) (router : String) (pool : List Agent) :
    Except StoreError (Option String) :=
  (s.ranked router pool).map fun agents => (first agents).map Prod.snd

end Store

namespace Controller

open RouterBinding.Action

/-- The agents to place a router on: the active ones of the candidates, or of all if there are no
candidates. -/
def pool (candidates : List Agent) : Action (List Agent) :=
  if candidates.isEmpty then ask (·.activeAgents)
  else pure (candidates.filter (·.isActive))

/-- Places a router on the agent with the fewest routers: the agent, or none if no agent is left
for it. -/
def place (router : String) (candidates : List Agent) : Action (Option String) := do
  let agents ← pool candidates
  match ← consult (·.leastLoaded? router agents) with
  | none => return none
  | some agent =>
    let _ ← commit ((Transaction.insertHost ⟨router, agent⟩).placing router agent)
    return some agent

/-- Whether a router is bound nowhere. -/
def isUnplaced (router : String) : Action Bool :=
  return (← consult (·.hostsOfRouter router)).isEmpty

/-- Binds a router to an agent. -/
def bindHost (agent : Agent) (router : Router) : Action Unit := do
  let _ ← commit ((Transaction.insertHost ⟨router.id, agent.id⟩).placing router.id agent.id)

/-- Unbinds a router from some agents in one transaction. -/
def unbindHosts (router : String) (agents : List String) : Action Unit :=
  commit (agents.forM fun agent => do
    let _ ← (Transaction.deleteHost ⟨router, agent⟩).inRequest)

/-- Unbinds a router from an agent, and tells the agent if it was bound and is known. -/
def removeHost (agent router : String) : Action Unit := do
  let existed ← commit (Transaction.deleteHost ⟨router, agent⟩).inRequest
  if existed then
    match ← ask (·.agent? agent) with
    | some a => notify (.routerRemoved router a.host)
    | none => return ()

end Controller

end RouterBinding
