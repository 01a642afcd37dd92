import RouterBinding.Json.Record
import RouterBinding.Network.DeviceOwner

/-!
# Ports

A port belongs to a device, has addresses on subnets and may be bound to a host. The port by which
a distributed router attaches to a subnet is bound on every host that runs the router; each such
host has an `InterfaceLink`.
-/

namespace RouterBinding

open Json

/-- An address of a port on a subnet. -/
structure FixedIp where
  subnet : String
  address : String
  deriving DecidableEq

structure Port where
  id : String
  tenant : String
  network : String
  device : String
  owner : String
  mac : String
  boundHost : Option String
  fixedIps : List FixedIp
  deriving DecidableEq

/-- The binding of a router interface on one host, with the router that it serves there. -/
structure InterfaceLink where
  port : String
  host : String
  router : Option String
  deriving DecidableEq

namespace FixedIp

def toTree (ip : FixedIp) : Tree :=
  .record [("subnet_id", .text ip.subnet), ("ip_address", .text ip.address)]

def ofTree? (tree : Tree) : Option FixedIp := do
  let r ← tree.record? [⟨"subnet_id", false⟩, ⟨"ip_address", false⟩]
  some {
    subnet := ← r.required? "subnet_id" Tree.text?
    address := ← r.required? "ip_address" Tree.text? }

end FixedIp

namespace Port

def isServiced (p : Port) : Bool := DeviceOwner.isServiced p.owner

/-- The host of the port; an empty name means that it is not bound. -/
def host (p : Port) : Option String := p.boundHost.filter (· ≠ "")

def subnets (p : Port) : List String := p.fixedIps.map (·.subnet)

def toTree (p : Port) : Tree :=
  .record [("id", .text p.id), ("tenant_id", .text p.tenant), ("network_id", .text p.network),
    ("device_id", .text p.device), ("device_owner", .text p.owner), ("mac_address", .text p.mac),
    ("binding_host", .optional p.boundHost), ("fixed_ips", .array (p.fixedIps.map (·.toTree)))]

def ofTree? (tree : Tree) : Option Port := do
  let r ← tree.record? [⟨"id", false⟩, ⟨"tenant_id", false⟩, ⟨"network_id", false⟩,
    ⟨"device_id", false⟩, ⟨"device_owner", false⟩, ⟨"mac_address", false⟩,
    ⟨"binding_host", true⟩, ⟨"fixed_ips", true⟩]
  some {
    id := ← r.required? "id" Tree.text?
    tenant := ← r.required? "tenant_id" Tree.text?
    network := ← r.required? "network_id" Tree.text?
    device := ← r.required? "device_id" Tree.text?
    owner := ← r.required? "device_owner" Tree.text?
    mac := ← r.required? "mac_address" Tree.text?
    boundHost := ← r.optional? "binding_host" Tree.text?
    fixedIps := ← r.default? "fixed_ips" [] (Tree.list? FixedIp.ofTree?) }

end Port

namespace InterfaceLink

def toTree (l : InterfaceLink) : Tree :=
  .record [("port_id", .text l.port), ("host", .text l.host), ("router_id", .optional l.router)]

def ofTree? (tree : Tree) : Option InterfaceLink := do
  let r ← tree.record? [⟨"port_id", false⟩, ⟨"host", false⟩, ⟨"router_id", false⟩]
  some {
    port := ← r.required? "port_id" Tree.text?
    host := ← r.required? "host" Tree.text?
    router := ← r.optional? "router_id" Tree.text? }

end InterfaceLink

end RouterBinding
