import RouterBinding.Network.Agent
import RouterBinding.Network.Port

/-!
# Filters

A filter asks for ports or agents by some of their properties; what it leaves open matches
everything.
-/

namespace RouterBinding

/-- A port has an address on one of the subnets, one of the owners, one of the devices, and the
host. An empty list and no host leave the property open. -/
structure PortFilter where
  subnets : List String := []
  owners : List String := []
  devices : List String := []
  host : Option String := none
  deriving DecidableEq

def PortFilter.accepts (f : PortFilter) (p : Port) : Bool :=
  (f.subnets.isEmpty || p.subnets.any (· ∈ f.subnets)) &&
    (f.owners.isEmpty || p.owner ∈ f.owners) &&
    (f.devices.isEmpty || p.device ∈ f.devices) &&
    f.host.all (p.host = some ·)

/-- An agent runs on the host, and is active or not. -/
structure AgentFilter where
  host : Option String := none
  active : Option Bool := none
  deriving DecidableEq

def AgentFilter.accepts (f : AgentFilter) (a : Agent) : Bool :=
  f.host.all (a.host = ·) && f.active.all (a.isActive = ·)

end RouterBinding
