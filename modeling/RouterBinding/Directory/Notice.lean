/-!
# Notices to agents

What the controller tells the agents: which routers changed on a host, that a router is gone from
it, and that the address of a port is to be entered into the routers of its neighbours or dropped.
-/

namespace RouterBinding

inductive ArpAction where
  | add
  | del
  deriving DecidableEq

def ArpAction.name : ArpAction → String
  | .add => "add"
  | .del => "del"

inductive Notice where
  | routersUpdatedOnHost (routers : List String) (host : String)
  | routerRemoved (router host : String)
  | routersUpdated (routers : List String) (schedule : Bool)
  | arp (port : String) (action : ArpAction)
  deriving DecidableEq

end RouterBinding
