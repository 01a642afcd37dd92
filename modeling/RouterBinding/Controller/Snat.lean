import RouterBinding.Controller.Basic
import RouterBinding.Placement.Eligibility

/-!
# Centralized address translation

A distributed router with a gateway has one agent that translates addresses for it: a SNAT binding,
together with a host binding for the router on the host of that agent. `scheduleSnat` chooses the
agent at random among the eligible ones. Releasing the SNAT binding takes the host binding with it
unless serviced ports keep the router on that host.
-/

namespace RouterBinding

/-- How scheduling the address translation of a router ended. -/
inductive SnatOutcome where
  | bound (agent : Agent)
  /-- The router has no gateway, so there is nothing to translate. -/
  | noGateway
  | noActiveAgents
  | noCandidates
  /-- The router has a SNAT binding. -/
  | alreadyBound

/-- What became of the host binding of the agent that translated. -/
inductive NodeOutcome where
  /-- Serviced ports keep the router on the host. -/
  | kept (host : String)
  | removed (host : String)
  deriving DecidableEq

/-- A released SNAT binding and what became of the host binding. -/
structure SnatRelease where
  binding : SnatBinding
  node : NodeOutcome
  deriving DecidableEq

namespace Transaction

/-- Adds the SNAT binding of a router to an agent, and the host binding unless it is there. -/
def bindSnat (router : Router) (agent : Agent) : Transaction StoreError Unit := do
  insertSnat ⟨router.id, agent.id, agent.host, router.gatewayPort⟩
  let _ ← insertHost ⟨router.id, agent.id⟩

/-- Drops the host binding of the agent of a SNAT binding, unless serviced ports need the router on
its host. -/
def releaseNode (d : Directory) (ctx : Context) (router : String) (b : SnatBinding) :
    Transaction ControllerError NodeOutcome := do
  if ← asking (d.needsRouter ctx b.host router none) then return .kept b.host
  let _ ← (deleteHost ⟨router, b.agent⟩).inRequest
  return .removed b.host

/-- Drops the SNAT binding of a router, of the scope if one is given, and with it the host
binding. -/
def releaseSnatNode (d : Directory) (ctx : Context) (router : String) (scope : Option String) :
    Transaction ControllerError (Option SnatRelease) := do
  match ← (deleteSnat router scope).inRequest with
  | none => return none
  | some b => return some ⟨b, ← releaseNode d ctx router b⟩

end Transaction

namespace Controller

open RouterBinding.Action

/-- Chooses one of some items at random. -/
def chooseOne {α : Type} (items : List α) : Action (Option α) := fun c =>
  let (chosen, draws) := c.draws.choose items
  (.ok chosen, { c with draws := draws })

/-- Binds the address translation of a router to an agent; another binding that is there first is
an outcome and no error. -/
def bindChosen (router : Router) (agent : Agent) : Action SnatOutcome := fun c =>
  match c.store.commit (Transaction.bindSnat router agent) with
  | (.ok (), store) => (.ok (.bound agent), { c with store := store })
  | (.error e, _) =>
    if e.isDuplicate then (.ok .alreadyBound, c)
    else (.error (.schedulingFailed router.id agent.id e.message), c)

/-- Binds the address translation of a router to an eligible agent chosen at random. -/
def scheduleSnat (router : Router) : Action SnatOutcome := do
  if !router.hasGateway then return .noGateway
  let active ← ask (·.activeAgents)
  if active.isEmpty then return .noActiveAgents
  match ← chooseOne (candidates router active) with
  | none => return .noCandidates
  | some agent => bindChosen router agent

/-- Drops the SNAT binding of a router, of the scope if one is given. -/
def releaseSnat (router : String) (scope : Option String) : Action (Option SnatBinding) :=
  commit (Transaction.deleteSnat router scope).inRequest

/-- Drops the host binding of the agent of a SNAT binding, unless it is needed. -/
def releaseNode (ctx : Context) (router : String) (b : SnatBinding) : Action NodeOutcome := do
  let c ← get
  commit (Transaction.releaseNode c.directory ctx router b)

/-- Drops the SNAT binding of a router, of the scope if one is given, and with it the host binding,
as one unit. -/
def releaseSnatNode (ctx : Context) (router : String) (scope : Option String) :
    Action (Option SnatRelease) := do
  let c ← get
  commit (Transaction.releaseSnatNode c.directory ctx router scope)

/-- Tells the agent on a host that a router is gone, if its host binding was dropped. -/
def notifyNode (router : String) : NodeOutcome → Action Unit
  | .removed host => notify (.routerRemoved router host)
  | .kept _ => pure ()

end Controller

end RouterBinding
