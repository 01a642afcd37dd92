import RouterBinding.Controller.LeastRouters
import RouterBinding.Controller.Snat

/-!
# Explicit assignment

Requests that name the router, the agent or both. For a distributed router they concern its address
translation, since its host bindings follow the ports; all else is placement by the number of
routers.
-/

namespace RouterBinding.Controller

open RouterBinding.Action

/-- Whether a router waits to be scheduled: a distributed one for its address translation, if it
has a gateway, and any other one for a host. -/
def needsScheduling (router : Router) : Action Bool := do
  if !router.distributed then isUnplaced router.id
  else if !router.hasGateway then return false
  else return (← consult (·.snatOf? router.id)).isNone

/-- Takes a router from some agents; a distributed one gives up its address translation, wherever
it is. -/
def unschedule (ctx : Context) (router : String) (agents : List String) : Action Unit := do
  let r ← knownRouter router
  if !r.distributed then unbindHosts router agents
  else match ← releaseSnatNode ctx router none with
    | some release => notifyNode router release.node
    | none => return ()

/-- Whether binding a router to an agent binds its address translation. -/
def translates (agent : Agent) (router : Router) : Bool :=
  router.distributed && router.hasGateway && agent.settings.mode = .dvrSnat

/-- Binds a router to an agent, with its address translation if the agent translates for it. -/
def bindRouter (agent : Agent) (router : Router) : Action Unit :=
  if translates agent router then
    commit ((Transaction.bindSnat router agent).placing router.id agent.id)
  else bindHost agent router

/-- Tells an agent that no longer translates for a router what became of the router. -/
def notifyReleased (router : String) : NodeOutcome → Action Unit
  | .removed host => notify (.routerRemoved router host)
  | .kept _ => notify (.routersUpdated [router] false)

/-- Removes a router from an agent. If the agent translates for it, that is what it gives up. -/
def removeRouter (ctx : Context) (agent router : String) : Action Unit := do
  let r ← knownRouter router
  if r.hasGateway && r.distributed then
    match ← releaseSnatNode ctx router (some agent) with
    | some release => notifyReleased router release.node
    | none => removeHost agent router
  else removeHost agent router

end RouterBinding.Controller
