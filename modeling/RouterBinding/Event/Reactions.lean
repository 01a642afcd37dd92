import RouterBinding.Controller.Assignment
import RouterBinding.Controller.Presence
import RouterBinding.Event.Bus

/-!
# How the controller follows ports

When a serviced port is created or bound to a host, its routers are brought there; when it leaves a
host or is no longer serviced, the routers that nothing else needs there are removed. The
neighbours of a serviced port are told of its address as it comes, changes and goes.
-/

namespace RouterBinding

namespace Controller

open RouterBinding.Action

/-- Has the address of a port entered or dropped, if the port is serviced. -/
def refreshArp (port : Port) (action : ArpAction) : Action Unit :=
  if port.isServiced then notify (.arp port.id action) else pure ()

/-- What to do once a port is created. -/
def portCreated (ctx : Context) (port : Port) : Action Unit := do
  if port.isServiced then
    let _ ← bringRouters ctx port
    refreshArp port .add

/-- Finds what the deletion of a port will remove, while the port is still there. -/
def prepareDelete (ctx : Context) (port : Port) : Action (List Removal) :=
  tearDown ctx port.id port.host

/-- What to do once a port is deleted. The routers may belong to others, so they are removed with
the sight of an administrator. -/
def portDeleted (ctx : Context) (port : Port) (removals : List Removal) : Action Unit := do
  refreshArp port .del
  removals.forM fun r => removeRouter ctx.elevated r.agent r.router

/-- Whether a port that had a host is no longer on it. -/
def leaves (original port : Port) : Bool := original.host.any fun host => port.host ≠ some host

/-- Whether a port is on a host that it was not on before. -/
def arrives (original port : Port) : Bool := port.host.any fun host => original.host ≠ some host

/-- Removes what the port no longer needs on the host it was on. -/
def departed (ctx : Context) (original : Port) : Action Unit := do
  let removals ← tearDown ctx original.id original.host
  if !removals.isEmpty then portDeleted ctx original removals

/-- Brings what the port needs where it is now, and refreshes its address where it changed. -/
def arrived (ctx : Context) (original port : Port) : Action Unit := do
  if arrives original port && port.isServiced then
    let _ ← bringRouters ctx port
    refreshArp port .add
  else if original.mac ≠ port.mac then refreshArp port .add

/-- What to do once a port is updated. -/
def portUpdated (ctx : Context) (original port : Port) : Action Unit := do
  if original.isServiced && !port.isServiced || leaves original port then
    departed ctx original
    if port.isServiced then arrived ctx original port
  else arrived ctx original port

end Controller

namespace Bus

/-- A handler that puts one request for an event that concerns it. -/
def requesting (request? : Context → PortEvent → Option (Action Unit)) : Handler :=
  fun ctx event =>
    match request? ctx event with
    | some action => .request action .finish
    | none => .finish (.ok ())

/-- The subscriptions by which the controller follows ports. -/
def routerSubscriptions : List Subscription :=
  [⟨.afterCreate, "dvr_new_port", requesting fun ctx event =>
      match event with
      | .created port => some (Controller.portCreated ctx port)
      | _ => none⟩,
    ⟨.afterUpdate, "dvr_port_update", requesting fun ctx event =>
      match event with
      | .updated original port => some (Controller.portUpdated ctx original port)
      | _ => none⟩,
    ⟨.afterDelete, "dvr_port_delete", requesting fun ctx event =>
      match event with
      | .deleted port removals => some (Controller.portDeleted ctx port removals)
      | _ => none⟩]

/-- Has the controller follow ports. -/
def registerRouter (b : Bus) : Bus := routerSubscriptions.foldl subscribe b

end Bus

end RouterBinding
