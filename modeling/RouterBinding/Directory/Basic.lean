import RouterBinding.Directory.Filter
import RouterBinding.Network.Context
import RouterBinding.Network.Router
import RouterBinding.Ordered.Table

/-!
# The directory

A `Directory` is what the controller can ask for: the ports, the links of router interfaces, the
agents and the routers. A question that is asked while its service is out fails with a `Fault`;
otherwise it is answered from the tables, and ports are shown only to those who can see them.
-/

namespace RouterBinding

/-- A service of the directory, which may be out. -/
inductive Service where
  | port
  | ports
  | portHost
  | link
  | linkUpdate
  | agents
  | agent
  | router
  deriving DecidableEq

def Service.name : Service → String
  | .port => "get_port"
  | .ports => "get_ports"
  | .portHost => "get_port_binding_host"
  | .link => "get_dvr_port_binding"
  | .linkUpdate => "update_dvr_port_binding"
  | .agents => "get_l3_agents"
  | .agent => "get_agent"
  | .router => "get_router"

/-- Why a question has no answer. -/
inductive Fault where
  | unavailable (service : Service)
  | noLink (port host : String)
  deriving DecidableEq

def Fault.message : Fault → String
  | .unavailable service => service.name ++ " unavailable"
  | .noLink port host => "no DVR binding for port " ++ port ++ " on host " ++ host

/-- What a link is filed under. -/
structure LinkKey where
  port : String
  host : String
  deriving DecidableEq

instance : Ord LinkKey := ⟨compareLex (compareOn LinkKey.port) (compareOn LinkKey.host)⟩

instance : Std.TransOrd LinkKey :=
  inferInstanceAs (Std.TransCmp (compareLex (compareOn LinkKey.port) (compareOn LinkKey.host)))

instance : Std.LawfulEqOrd LinkKey where
  compare_self := fun {a} => by
    show (compare a.port a.port).then (compare a.host a.host) = .eq
    simp
  eq_of_compare := fun {a b} h => by
    obtain ⟨hport, hhost⟩ := Ordering.then_eq_eq.1 h
    cases a
    cases b
    simp_all [compareOn]

def InterfaceLink.key (l : InterfaceLink) : LinkKey := ⟨l.port, l.host⟩

structure Directory where
  ports : Table String Port
  links : Table LinkKey InterfaceLink
  agents : Table String Agent
  routers : Table String Router
  /-- The services that are out. -/
  outages : List Service

namespace Directory

instance : EmptyCollection Directory := ⟨⟨∅, ∅, ∅, ∅, []⟩⟩

def putPort (d : Directory) (p : Port) : Directory := { d with ports := d.ports.insert p.id p }

def removePort (d : Directory) (id : String) : Directory := { d with ports := d.ports.erase id }

def putAgent (d : Directory) (a : Agent) : Directory :=
  { d with agents := d.agents.insert a.id a }

def removeAgent (d : Directory) (id : String) : Directory :=
  { d with agents := d.agents.erase id }

def putRouter (d : Directory) (r : Router) : Directory :=
  { d with routers := d.routers.insert r.id r }

def putLink (d : Directory) (l : InterfaceLink) : Directory :=
  { d with links := d.links.insert l.key l }

/-- Asks a service, which answers unless it is out. -/
def ask {α : Type} (d : Directory) (service : Service) (answer : α) : Except Fault α :=
  if service ∈ d.outages then .error (.unavailable service) else .ok answer

/-- A port, if it is there to be seen. -/
def port? (d : Directory) (ctx : Context) (id : String) : Except Fault (Option Port) :=
  d.ask .port ((d.ports.get? id).filter fun p => ctx.canSee p.tenant)

/-- The ports that a filter accepts and that can be seen, by id. -/
def portsWhere (d : Directory) (ctx : Context) (f : PortFilter) : Except Fault (List Port) :=
  d.ask .ports (d.ports.values.filter fun p => ctx.canSee p.tenant && f.accepts p)

/-- The ports bound to a host with an address on a subnet. -/
def portsOnHost (d : Directory) (ctx : Context) (host subnet : String) :
    Except Fault (List Port) :=
  d.portsWhere ctx { subnets := [subnet], host := some host }

/-- The host that a port is bound to; this is no secret. -/
def hostOfPort? (d : Directory) (id : String) : Except Fault (Option String) :=
  d.ask .portHost ((d.ports.get? id).bind (·.host))

def link? (d : Directory) (port host : String) : Except Fault (Option InterfaceLink) :=
  d.ask .link (d.links.get? ⟨port, host⟩)

/-- Replaces a link that is there. -/
def updateLink (d : Directory) (l : InterfaceLink) : Except Fault Directory := do
  d.ask .linkUpdate ()
  if d.links.contains l.key then .ok (d.putLink l) else .error (.noLink l.port l.host)

/-- The agents that a filter accepts, by id. -/
def agentsWhere (d : Directory) (f : AgentFilter) : Except Fault (List Agent) :=
  d.ask .agents (d.agents.values.filter f.accepts)

/-- The active agents, by id. -/
def activeAgents (d : Directory) : Except Fault (List Agent) :=
  d.agentsWhere { active := some true }

/-- The agent of a host, active or not; of several the one with the least id. -/
def agentOnHost? (d : Directory) (host : String) : Except Fault (Option Agent) :=
  (d.agentsWhere { host := some host }).map List.head?

def agent? (d : Directory) (id : String) : Except Fault (Option Agent) :=
  d.ask .agent (d.agents.get? id)

def router? (d : Directory) (id : String) : Except Fault (Option Router) :=
  d.ask .router (d.routers.get? id)

end Directory

end RouterBinding
