/-!
# Device owners

The owner of a port says what kind of device the port belongs to. A port is serviced if its owner
needs distributed routers on the host that the port is bound to: a compute instance, a DHCP server
or a load balancer.
-/

namespace RouterBinding.DeviceOwner

/-- What the owner of every compute instance begins with; a zone follows. -/
def compute : String := "compute:"

/-- The attachment of a distributed router to a subnet. -/
def routerInterface : String := "network:router_interface_distributed"

def dhcp : String := "network:dhcp"

def loadBalancer : String := "neutron:LOADBALANCER"

def loadBalancerV2 : String := "neutron:LOADBALANCERV2"

def isServiced (owner : String) : Bool :=
  compute.toList.isPrefixOf owner.toList || owner = dhcp || owner = loadBalancer ||
    owner = loadBalancerV2

end RouterBinding.DeviceOwner
