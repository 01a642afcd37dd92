import RouterBinding.Network.Agent
import RouterBinding.Network.Router

/-!
# Who may run the address translation of a router

An agent may run the centralized address translation of a distributed router if it is up, works in
the `dvr_snat` mode, is not pinned to another router, and accepts the gateway of the router.
`rejection?` is the first rule that an agent breaks; `candidates` are the agents that break none.
-/

namespace RouterBinding

/-- Why an agent may not run the address translation of a router. -/
inductive Rejection where
  | notDistributed
  | adminDown
  | wrongMode (mode : AgentMode)
  | pinned (router : String)
  | internalRefused
  | otherNetwork (router agent : String)
  deriving DecidableEq

namespace Rejection

def message : Rejection → String
  | notDistributed => "router is not distributed"
  | adminDown => "agent is administratively down"
  | wrongMode mode => "agent mode is " ++ mode.name
  | pinned router => "agent is pinned to router " ++ router
  | internalRefused => "agent does not handle internal-only routers"
  | otherNetwork router agent =>
    "router gateway network " ++ router ++ " differs from agent network " ++ agent

end Rejection

/-- Why the settings do not accept the gateway network of a router. -/
def AgentSettings.gatewayRejection? (s : AgentSettings) (network : Option String) :
    Option Rejection :=
  match network, s.externalNetwork with
  | none, _ => if s.acceptsInternal then none else some .internalRefused
  | some network, some own => if network = own then none else some (.otherNetwork network own)
  | some _, none => none

/-- The first rule that keeps an agent from running the address translation of a router. -/
def rejection? (router : Router) (agent : Agent) : Option Rejection :=
  if !router.distributed then some .notDistributed
  else if !agent.adminUp then some .adminDown
  else if agent.settings.mode ≠ .dvrSnat then some (.wrongMode agent.settings.mode)
  else match agent.settings.pinnedRouter with
    | some id =>
      if id ≠ router.id then some (.pinned id)
      else agent.settings.gatewayRejection? router.gatewayNetwork
    | none => agent.settings.gatewayRejection? router.gatewayNetwork

/-- The agents that may run the address translation of a router, in their order. -/
def candidates (router : Router) (agents : List Agent) : List Agent :=
  agents.filter fun agent => (rejection? router agent).isNone

theorem mem_candidates {router : Router} {agents : List Agent} {agent : Agent} :
    agent ∈ candidates router agents ↔ agent ∈ agents ∧ rejection? router agent = none := by
  simp [candidates]

end RouterBinding
