import RouterBinding.Proofs.Controller.Bringing
import RouterBinding.Proofs.Directory.Fabric
import RouterBinding.Proofs.Event.Outage
import RouterBinding.Proofs.Event.Signals
import RouterBinding.Proofs.Presence.Stranding

/-!
# Updates that bring a port to a host

An update brings the routers of a port to its host only if the port was not on the host before.
`update_binds_arrival` says what that makes of the routers that the port attaches to where it is:
they are bound to the agent of the host if the port came there by the update, and stay bound if they
were. A serviced port that stays on its host gets no routers, whatever its addresses become
(`port_updated_in_place`).
-/

namespace RouterBinding

namespace Controller

open RouterBinding.Action

variable {c c' : Controller} {ctx : Context} {original port : Port} {host : String} {a : Agent}

/-- A serviced port that comes to the host of an active agent has its routers bound there, whatever
it left behind elsewhere. -/
theorem port_updated_binds (hd : c.directory.Serving)
    (hsettled : c.directory.Settled port host a) (hmoved : original.host ≠ some host)
    (hrun : (portUpdated ctx original port).runOn c = (.ok (), c')) {router : String}
    (hattached : router ∈ c.directory.attached ctx port.fixedIps) : c'.store.Binds router a.id := by
  have hserviced := hsettled.serviced
  have harrives : (arrives original port && port.isServiced) = true := by
    simp [arrives, hsettled.bound, hmoved, hserviced]
  -- departing changes links only, which have no part in what is brought
  obtain ⟨c₁, hlinks, harrived⟩ : ∃ c₁, c.directory.Relinks c₁.directory ∧
      (arrived ctx original port).runOn c₁ = (.ok (), c') := by
    unfold portUpdated at hrun
    split at hrun
    · obtain ⟨⟨⟩, c₁, hdeparted, harrived⟩ := ok_of_bind hrun
      exact ⟨c₁, (departed_tells hd ctx original _ _ hdeparted).1, harrived⟩
    · exact ⟨c, .refl _, hrun⟩
  rw [arrived, if_pos harrives] at harrived
  rw [← hlinks.same (·.attached ctx port.fixedIps) fun _ _ => rfl] at hattached
  exact (announced_binds (hd.relinks hlinks) (hsettled.relinks hlinks) harrived router a.id).2
    (.inr ⟨hattached, rfl⟩)

/-- A serviced port that was on its host before leaves all bindings alone. -/
theorem port_updated_in_place (hserviced : port.isServiced) (hhost : original.host = port.host)
    (hrun : (portUpdated ctx original port).runOn c = (.ok (), c')) : c'.store = c.store := by
  have hleaves : ¬(original.isServiced && !port.isServiced || leaves original port) = true := by
    unfold leaves
    cases hport : port.host <;> simp [hhost, hport, hserviced]
  have harrives : ¬(arrives original port && port.isServiced) = true := by
    unfold arrives
    cases hport : port.host <;> simp [hhost, hport]
  rw [portUpdated, if_neg hleaves, arrived, if_neg harrives, refreshArp, if_pos hserviced] at hrun
  split at hrun <;> cases hrun <;> rfl

end Controller

namespace Exchange

/-- When an administrator updates a serviced port to be on the host of an active agent, a router
that it attaches to there is bound to the agent afterwards if the port was not on the host before,
or if the router was bound there. Where a serviced port was on the host before, the store stays as
it is. -/
theorem update_binds_arrival {x y : Exchange} (hbus : x.Registered)
    (hd : x.controller.directory.restored.Serving) {original port : Port} {host : String}
    {a : Agent} (hsettled : x.controller.directory.Settled port host a) {nesting : Nat}
    {ctx : Context} (hadmin : ctx.admin = true)
    (hrun : x.updatePort (nesting + 1) ctx original port = some (.ok (), y)) :
    (∀ router, (x.controller.directory.putPort port).Attaches port router →
        original.host ≠ some host ∨ x.controller.store.Binds router a.id →
        y.controller.store.Binds router a.id) ∧
      (original.isServiced → original.host = some host →
        y.controller.store = x.controller.store) := by
  have hfollowed := follow_restored (x := x.changeDirectory (·.putPort port)) hbus hrun
  have hstays (hsame : original.host = some host) : y.controller.store = x.controller.store := by
    have hkept := Controller.port_updated_in_place
      (c := (x.changeDirectory (·.putPort port)).restored.controller) hsettled.serviced
      (hsame.trans hsettled.bound.symm) hfollowed
    exact hkept
  refine ⟨fun router hattaches hbrought => ?_, fun _ => hstays⟩
  by_cases hsame : original.host = some host
  · rw [hstays hsame]
    exact hbrought.resolve_left fun h => h hsame
  · have hsettled : (x.controller.directory.putPort port).restored.Settled port host a :=
      { hsettled with }
    exact Controller.port_updated_binds (hd.put_port port) hsettled hsame hfollowed
      ((Directory.mem_attached_iff hadmin).2 hattaches)

end Exchange

/-! ## A port that comes to a host, and ports that were there -/

namespace SoleHost

/-- The exchange once a port has been updated. -/
def updated (x : Exchange) (original port : Port) : Exchange :=
  { x with controller := ((Controller.portUpdated .administrator original port).runOn
      (x.changeDirectory (·.putPort port)).controller).2 }

theorem update_published {x : Exchange} (hbus : x.Registered) {original port : Port}
    (hanswer : ((Controller.portUpdated .administrator original port).runOn
      (x.changeDirectory (·.putPort port)).controller).1 = .ok ()) :
    x.updatePort 64 .administrator original port = some (.ok (), updated x original port) :=
  Exchange.publish_followed (x := x.changeDirectory (·.putPort port)) hbus 63 hanswer

/-- The serviced port before it is bound to a host. -/
def unbound : Port := { port with boundHost := none }

/-- The port on the host, with an owner that is not serviced. -/
def unserviced : Port := { port with owner := "network:floatingip" }

/-- The serviced port on the host, on another subnet. -/
def shifted : Port := { port with fixedIps := [⟨"s2", "10.0.1.5"⟩] }

/-- A second router, with an interface on that subnet. -/
def second : Router := ⟨"r2", "t1", true, none⟩

def secondInterface : Port :=
  ⟨"if2", "t1", "n2", "r2", DeviceOwner.routerInterface, "m3", none, [⟨"s2", "10.0.1.1"⟩]⟩

/-- The first port has brought the first router, and there is the second one. -/
def joined : Exchange :=
  occupied.changeDirectory fun d => (d.putRouter second).putPort secondInterface

theorem port_settled : idle.controller.directory.Settled port "h1" agent :=
  ⟨by decide +kernel, rfl, rfl, rfl⟩

theorem shifted_settled : joined.controller.directory.Settled shifted "h1" agent :=
  ⟨by decide +kernel, rfl, rfl, rfl⟩

theorem joined_registered : joined.Registered := occupied_reachable.serving.1

theorem joined_serving : joined.controller.directory.Serving :=
  (occupied_reachable.serving.2.1.put_router second).put_port secondInterface

theorem joined_ports : (joined.controller.directory.putPort shifted).ports.values =
    [interface, secondInterface, shifted] := rfl

/-- The port attached to the first router only, and that is bound. -/
theorem joined_bound {router : String}
    (h : (joined.controller.directory.putPort shifted).Attaches port router) :
    joined.controller.store.Binds router agent.id := by
  obtain ⟨q, hq, ip, hip, -, hdevice, hsubnet⟩ := h
  obtain rfl : ip = ⟨"s1", "10.0.0.5"⟩ := List.mem_singleton.1 hip
  rw [joined_ports] at hq
  simp only [List.mem_cons, List.not_mem_nil, or_false] at hq
  rcases hq with rfl | rfl | rfl
  · obtain rfl : interface.device = router := hdevice
    exact occupied_reachable.serving.2.2.binds_iff.2 (by decide +kernel)
  · exact absurd hsubnet (by decide)
  · exact absurd hsubnet (by decide)

end SoleHost

namespace Exchange

open SoleHost in
theorem update_binds_arrival_unbound :
    idle.Registered ∧ idle.controller.directory.restored.Serving ∧
      idle.controller.directory.Settled port "h1" agent ∧ Context.administrator.admin = true ∧
      idle.updatePort 64 .administrator unbound port = some (.ok (), updated idle unbound port) ∧
      (∀ router, (idle.controller.directory.putPort port).Attaches port router →
        unbound.host ≠ some "h1" ∨ idle.controller.store.Binds router agent.id →
        (updated idle unbound port).controller.store.Binds router agent.id) ∧
      (unbound.isServiced → unbound.host = some "h1" →
        (updated idle unbound port).controller.store = idle.controller.store) := by
  have hbus : idle.Registered := rfl
  have hserving : idle.controller.directory.restored.Serving := plain_directory_fabric.toServing
  have hrun : idle.updatePort 64 .administrator unbound port =
      some (.ok (), updated idle unbound port) := update_published hbus rfl
  exact ⟨hbus, hserving, port_settled, rfl, hrun,
    update_binds_arrival hbus hserving port_settled rfl hrun⟩

open SoleHost in
/-- A port that stays on its host has no routers bound there, be it a serviced port that moves to
the subnet of another router, or one that becomes serviced. -/
theorem settled_port_unbound :
    (joined.Registered ∧ joined.controller.directory.Serving ∧
      joined.controller.directory.Settled shifted "h1" agent ∧
      port.isServiced ∧ port.host = some "h1" ∧
      (∀ router, (joined.controller.directory.putPort shifted).Attaches port router →
        joined.controller.store.Binds router agent.id) ∧
      joined.updatePort 64 .administrator port shifted =
        some (.ok (), updated joined port shifted) ∧
      (joined.controller.directory.putPort shifted).Attaches shifted second.id ∧
      ¬(updated joined port shifted).controller.store.Binds second.id agent.id) ∧
    idle.Registered ∧ idle.controller.directory.Serving ∧
      idle.controller.directory.Settled port "h1" agent ∧ unserviced.isServiced = false ∧
      idle.updatePort 64 .administrator unserviced port =
        some (.ok (), updated idle unserviced port) ∧
      (idle.controller.directory.putPort port).Attaches port plain.id ∧
      ¬(updated idle unserviced port).controller.store.Binds plain.id agent.id := by
  have hbus : idle.Registered := rfl
  refine ⟨⟨joined_registered, joined_serving, shifted_settled, by decide +kernel, rfl,
    fun _ => joined_bound, update_published joined_registered rfl, ?_, ?_⟩, hbus,
    plain_directory_fabric.toServing, port_settled, by decide +kernel, update_published hbus rfl,
    ?_, ?_⟩
  · exact ⟨secondInterface, by simp [joined_ports], ⟨"s2", "10.0.1.5"⟩, List.mem_singleton_self _,
      rfl, rfl, List.mem_singleton_self _⟩
  · have hstore : (updated joined port shifted).controller.store = occupied.controller.store := by
      decide +kernel
    rw [hstore, occupied_reachable.serving.2.2.binds_iff]
    decide +kernel
  · exact ⟨interface, Table.mem_values.2 ⟨interface.id, by decide +kernel⟩, ⟨"s1", "10.0.0.5"⟩,
      List.mem_singleton_self _, rfl, rfl, List.mem_singleton_self _⟩
  · have hstore : (updated idle unserviced port).controller.store = ∅ := by decide +kernel
    rw [hstore, Store.Sound.empty.binds_iff]
    decide +kernel

end Exchange

end RouterBinding
