import RouterBinding.Json.Record

/-!
# Routers

A router as its owner publishes it: whether it is distributed, and its gateway to an external
network with the gateway port once there is one.
-/

namespace RouterBinding

open Json

structure Gateway where
  network : String
  port : Option String
  deriving DecidableEq

structure Router where
  id : String
  tenant : String
  distributed : Bool
  gateway : Option Gateway
  deriving DecidableEq

namespace Gateway

def toTree (g : Gateway) : Tree :=
  .record [("network_id", .text g.network), ("port_id", .optional g.port)]

def ofTree? (tree : Tree) : Option Gateway := do
  let r ← tree.record? [⟨"network_id", false⟩, ⟨"port_id", true⟩]
  some {
    network := ← r.required? "network_id" Tree.text?
    port := ← r.optional? "port_id" Tree.text? }

end Gateway

namespace Router

def hasGateway (r : Router) : Bool := r.gateway.isSome

def gatewayNetwork (r : Router) : Option String := r.gateway.map (·.network)

def gatewayPort (r : Router) : Option String := r.gateway.bind (·.port)

def toTree (r : Router) : Tree :=
  .record [("id", .text r.id), ("tenant_id", .text r.tenant), ("distributed", .bool r.distributed),
    ("external_gateway", match r.gateway with
      | some g => g.toTree
      | none => .null)]

def ofTree? (tree : Tree) : Option Router := do
  let r ← tree.record? [⟨"id", false⟩, ⟨"tenant_id", false⟩, ⟨"distributed", false⟩,
    ⟨"external_gateway", true⟩]
  some {
    id := ← r.required? "id" Tree.text?
    tenant := ← r.required? "tenant_id" Tree.text?
    distributed := ← r.required? "distributed" Tree.bool?
    gateway := ← r.optional? "external_gateway" Gateway.ofTree? }

end Router

end RouterBinding
