import RouterBinding.Directory.Basic
import RouterBinding.Ordered.Distinct

/-!
# Where routers are needed

A distributed router is needed on a host while a serviced port on the host has an address on a
subnet that the router attaches to. The questions here are put to the directory only.
-/

namespace RouterBinding.Directory

/-- The interfaces of distributed routers on a subnet. -/
def interfacesOn (d : Directory) (ctx : Context) (subnet : String) : Except Fault (List Port) :=
  d.portsWhere ctx { subnets := [subnet], owners := [DeviceOwner.routerInterface] }

/-- The interfaces of one distributed router. -/
def interfacesOf (d : Directory) (ctx : Context) (router : String) : Except Fault (List Port) :=
  d.portsWhere ctx { devices := [router], owners := [DeviceOwner.routerInterface] }

/-- The distributed routers with an interface on the subnet of one of the addresses, by id. -/
def routersOn (d : Directory) (ctx : Context) (ips : List FixedIp) :
    Except Fault (List String) := do
  let interfaces ← ips.mapM fun ip => d.interfacesOn ctx ip.subnet
  return distinct (interfaces.flatten.map (·.device))

/-- The addresses of a port; a port that is not there to be seen has none. -/
def addressesOf (d : Directory) (ctx : Context) (port : String) : Except Fault (List FixedIp) := do
  match ← d.port? ctx port with
  | some p => return p.fixedIps
  | none => return []

/-- The distributed routers that a port needs, by id. -/
def routersOfPort (d : Directory) (ctx : Context) (port : String) :
    Except Fault (List String) := do
  d.routersOn ctx (← d.addressesOf ctx port)

/-- The subnets that a router attaches to: those of the first address of each port of its. -/
def subnetsOfRouter (d : Directory) (ctx : Context) (router : String) :
    Except Fault (List String) := do
  let ports ← d.portsWhere ctx { devices := [router] }
  return distinct (ports.filterMap fun p => p.fixedIps.head?.map (·.subnet))

/-- Whether a serviced port on a host, other than the excepted one, has an address on one of the
subnets. -/
def servicedOnHost (d : Directory) (ctx : Context) (host : String) (subnets : List String)
    (except? : Option String) : Except Fault Bool :=
  subnets.anyM fun subnet => do
    let ports ← d.portsOnHost ctx host subnet
    return ports.any fun p => p.isServiced && some p.id ≠ except?

/-- Whether a router is needed on a host by a port other than the excepted one. -/
def needsRouter (d : Directory) (ctx : Context) (host router : String)
    (except? : Option String) : Except Fault Bool := do
  d.servicedOnHost ctx host (← d.subnetsOfRouter ctx router) except?

end RouterBinding.Directory
