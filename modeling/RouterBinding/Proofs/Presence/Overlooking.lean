import RouterBinding.Proofs.Controller.Bringing
import RouterBinding.Proofs.Event.Outage
import RouterBinding.Proofs.Presence.Following
import RouterBinding.Proofs.Snat.Visibility

/-!
# Bringing and tearing down with different sight

A port that is created brings its routers with the sight of the one who creates it; when it goes,
the routers to remove are sought with the sight of an administrator. On a shared network the
interface of a router may belong to another tenant than the port. `examined_bound_iff` says that of
the routers that the deletion of a port examines just those are bound that its creation has not
overlooked, and `hidden_router_unbound` that a tenant overlooks a router all of whose interfaces are
another's.
-/

namespace RouterBinding

namespace Directory

variable {d : Directory} {ctx : Context} {port : Port}

/-- The deletion of a stored port examines the routers with an interface on one of its subnets,
whoever owns the interface. -/
theorem Serving.mem_examined (hd : d.restored.Serving)
    (hstored : d.ports.get? port.id = some port) {routers : List String}
    (hexamined : d.routersOfPort ctx.elevated port.id = .ok routers) {router : String} :
    router ∈ routers ↔ d.Attaches port router := by
  have hanswer : d.restored.routersOfPort ctx.elevated port.id = .ok routers :=
    routers_of_port_steady ctx.elevated port.id d routers hexamined
  have hips : d.restored.addresses ctx.elevated port.id = port.fixedIps := by
    rw [addresses, show d.restored.ports.get? port.id = some port from hstored]
    simp [Option.filter_some]
  have hattached : routers = d.restored.attached ctx.elevated port.fixedIps := by
    rw [hd.routers_of_port, hips] at hanswer
    exact (Except.ok.inj hanswer).symm
  rw [hattached]
  exact mem_attached_iff rfl

end Directory

namespace Exchange

/-- A router that a port attaches to is overlooked by one who brings the routers of the port to an
agent: it is not bound there, and each of its interfaces on a subnet of the port belongs to somebody
out of sight. -/
structure Overlooks (x : Exchange) (ctx : Context) (port : Port) (agent router : String) :
    Prop where
  attached : x.controller.directory.Attaches port router
  unbound : ¬x.controller.store.Binds router agent
  hidden : ∀ q ∈ x.controller.directory.ports.values, ∀ ip ∈ port.fixedIps,
    Directory.IsInterface router ip.subnet q → ctx.canSee q.tenant = false

/-- Once a serviced port on the host of an active agent is created, the routers that its deletion
examines are bound to the agent, except those that are overlooked by the one who creates it. -/
theorem examined_bound_iff {x y : Exchange} (hbus : x.Registered)
    (hd : x.controller.directory.restored.Serving) {port : Port}
    (hstored : x.controller.directory.ports.get? port.id = some port) {host : String} {a : Agent}
    (hsettled : x.controller.directory.Settled port host a) {nesting : Nat} {ctx : Context}
    (hrun : x.publish (nesting + 1) ctx (.created port) = some (.ok (), y)) {routers : List String}
    (hexamined : x.controller.directory.routersOfPort ctx.elevated port.id = .ok routers)
    {router : String} (hmem : router ∈ routers) :
    y.controller.store.Binds router a.id ↔ ¬x.Overlooks ctx port a.id router := by
  have hcreated : (Controller.portCreated ctx port).runOn x.restored.controller =
      (.ok (), y.restored.controller) := follow_restored hbus hrun
  rw [Controller.portCreated, if_pos hsettled.serviced] at hcreated
  have hbinds := Controller.announced_binds (c := x.restored.controller) hd { hsettled with }
    hcreated router a.id
  rw [Directory.mem_attached] at hbinds
  refine Iff.trans hbinds ⟨?_, fun hseen => ?_⟩
  · rintro (hbefore | ⟨⟨q, hq, hsee, ip, hip, hinterface⟩, -⟩) hoverlooks
    · exact hoverlooks.unbound hbefore
    · rw [hoverlooks.hidden q hq ip hip hinterface] at hsee
      cases hsee
  · have hattached := (hd.mem_examined hstored hexamined).1 hmem
    by_contra hunbound
    rw [not_or] at hunbound
    refine hseen ⟨hattached, hunbound.1, fun q hq ip hip hinterface => ?_⟩
    by_contra hsee
    exact hunbound.2 ⟨⟨q, hq, by simpa using hsee, ip, hip, hinterface⟩, rfl⟩

end Exchange

/-! ## A port of another tenant on a shared network -/

namespace SoleHost

/-- The tenant of the guest. -/
def visitor : Context := ⟨some "t2", false⟩

/-- The port is there, and has not brought its routers yet. -/
def shared : Exchange := idle.changeDirectory (·.putPort guest)

/-- The exchange once the port is created. -/
def created (ctx : Context) : Exchange :=
  { shared with controller :=
    ((Controller.portCreated ctx guest).runOn shared.controller).2 }

theorem shared_registered : shared.Registered := rfl

theorem shared_serving : shared.controller.directory.restored.Serving :=
  plain_directory_fabric.toServing.put_port guest

theorem guest_settled : shared.controller.directory.Settled guest "h1" agent :=
  ⟨by decide +kernel, rfl, rfl, rfl⟩

theorem created_published {ctx : Context}
    (hanswer : ((Controller.portCreated ctx guest).runOn shared.controller).1 = .ok ()) :
    shared.publish 64 ctx (.created guest) = some (.ok (), created ctx) :=
  Exchange.publish_followed shared_registered 63 hanswer

theorem guest_stored : shared.controller.directory.ports.get? guest.id = some guest :=
  Table.get_insert_self _ _ _

theorem guest_examined (ctx : Context) :
    shared.controller.directory.routersOfPort ctx.elevated guest.id = .ok [plain.id] :=
  rfl

end SoleHost

namespace Exchange

open SoleHost in
theorem examined_bound_iff_administrator :
    shared.Registered ∧ shared.controller.directory.restored.Serving ∧
      shared.controller.directory.ports.get? guest.id = some guest ∧
      shared.controller.directory.Settled guest "h1" agent ∧
      shared.publish 64 .administrator (.created guest) =
        some (.ok (), created .administrator) ∧
      shared.controller.directory.routersOfPort Context.administrator.elevated guest.id =
        .ok [plain.id] ∧
      ((created .administrator).controller.store.Binds plain.id agent.id ↔
        ¬shared.Overlooks .administrator guest agent.id plain.id) := by
  have hrun : shared.publish 64 .administrator (.created guest) =
      some (.ok (), created .administrator) := created_published rfl
  exact ⟨shared_registered, shared_serving, guest_stored, guest_settled, hrun,
    guest_examined _, examined_bound_iff shared_registered shared_serving guest_stored
      guest_settled hrun (guest_examined _) (List.mem_singleton_self _)⟩

open SoleHost in
/-- A tenant creates a port on a shared network. The router there, whose only interface belongs to
another tenant, is not bound to the agent of the host, and yet the deletion of the port will examine
it. -/
theorem hidden_router_unbound :
    shared.Registered ∧ shared.controller.directory.restored.Serving ∧
      shared.controller.directory.ports.get? guest.id = some guest ∧
      shared.controller.directory.Settled guest "h1" agent ∧
      shared.publish 64 visitor (.created guest) = some (.ok (), created visitor) ∧
      (created visitor).controller.directory.routersOfPort visitor.elevated guest.id =
        .ok [plain.id] ∧
      ¬(created visitor).controller.store.Binds plain.id agent.id := by
  have hstore : (created visitor).controller.store = ∅ := by decide +kernel
  refine ⟨shared_registered, shared_serving, guest_stored, guest_settled,
    created_published rfl, guest_examined _, ?_⟩
  rw [hstore, Store.Sound.empty.binds_iff]
  decide +kernel

end Exchange

end RouterBinding
