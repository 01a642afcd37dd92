import RouterBinding.Proofs.Controller.Elsewhere
import RouterBinding.Proofs.Event.Outage
import RouterBinding.Proofs.Presence.Agreement
import RouterBinding.Proofs.Presence.Stranding

/-!
# Leaving a host with other addresses

When a port leaves a host by an update, the routers to remove there are sought by the addresses of
the port. They are read after the port is replaced, so they are those that it has where it goes.
`bound_after_update` says which routers stay bound to the agent of the host that is left, over
stores of any content, and `unheld_unbound_iff` which of them nothing holds there any more.
-/

namespace RouterBinding

namespace Controller

open RouterBinding.Action

variable {c : Controller}

/-- Removals of known routers without gateway unbind them, whatever else the store holds. -/
theorem remove_routers_no_gateway (hd : c.directory.Serving) (ctx : Context)
    {rs : List Removal} (hplain : ∀ q ∈ rs, ∃ r, c.directory.routers.get? q.router = some r ∧
      r.hasGateway = false) :
    Does (rs.forM fun q => removeRouter ctx q.agent q.router) c (.ok ())
      ((rs.map fun q => (⟨q.router, q.agent⟩ : HostBinding)).foldl Store.dropHost c.store) := by
  induction rs generalizing c with
  | nil => exact .pure ()
  | cons q rs ih =>
      obtain ⟨r, hr, hgateway⟩ := hplain q List.mem_cons_self
      have hremove : Does (removeRouter ctx q.agent q.router) c (.ok ())
          (c.store.dropHost ⟨q.router, q.agent⟩) := by
        refine .of_run ?_
        rw [removeRouter, run_on_bind, known_router_serving hd, hr]
        simp only [hgateway, Bool.false_and, Bool.false_eq_true, if_false]
        exact remove_host_serving hd q.agent q.router
      refine hremove.bind fun d sent hlinks => ?_
      refine ih (c := { c with
        directory := d
        store := c.store.dropHost ⟨q.router, q.agent⟩
        sent := sent }) (hd.relinks hlinks) fun q' hq' => ?_
      rw [show d.routers = c.directory.routers from hlinks.routers_eq]
      exact hplain q' (List.mem_cons_of_mem _ hq')

/-- What is due when a port leaves is removed, over a store of any content. -/
theorem departed_no_gateway (hd : c.directory.Serving) (ctx : Context) {original : Port}
    {rs : List Removal} (hrs : c.directory.leaving ctx.elevated original.id original.host = rs)
    (hplain : ∀ q ∈ rs, ∃ r, c.directory.routers.get? q.router = some r ∧ r.hasGateway = false) :
    Does (departed ctx original) c (.ok ())
      ((rs.map fun q => (⟨q.router, q.agent⟩ : HostBinding)).foldl Store.dropHost c.store) := by
  refine (Does.of_answers (tear_down_serving hd ctx original.id original.host)).bind
    fun d sent hlinks => ?_
  rw [hrs]
  cases hempty : rs.isEmpty with
  | true =>
      rw [List.isEmpty_iff.1 hempty]
      exact .pure ()
  | false =>
      refine (refresh_arp_does original .del).bind fun d' sent' hlinks' => ?_
      refine remove_routers_no_gateway (c := { c with directory := d', sent := sent' })
        ((hd.relinks hlinks).relinks hlinks') ctx.elevated fun q hq => ?_
      rw [show d'.routers = c.directory.routers from
        hlinks'.routers_eq.trans hlinks.routers_eq]
      exact hplain q hq

end Controller

/-- A serviced port leaves a host: afterwards it is bound elsewhere or no longer serviced. -/
structure Port.Departs (original port : Port) (host : String) : Prop where
  same : port.id = original.id
  serviced : original.isServiced
  bound : original.host = some host
  gone : port.host ≠ some host ∨ port.isServiced = false

/-- All interfaces are those of known routers without gateway. -/
def Directory.Plain (d : Directory) : Prop :=
  ∀ q ∈ d.ports.values, q.owner = DeviceOwner.routerInterface →
    ∃ r, d.routers.get? q.device = some r ∧ r.hasGateway = false

/-- The agents of two hosts have different ids. -/
theorem Directory.Serving.agent_elsewhere {d : Directory} (hd : d.Serving) {host host' : String}
    {a b : Agent} (hb : d.agentOn? host' = some b) (ha : d.agentOn? host = some a)
    (hne : host' ≠ host) : b.id ≠ a.id := by
  intro hid
  obtain ⟨hbmem, hbhost⟩ := of_agent_on hb
  obtain ⟨hamem, hahost⟩ := of_agent_on ha
  have hsame : a = b := by
    have hfound := hd.agents.mem_values.1 hbmem
    rw [hid, hd.agents.mem_values.1 hamem] at hfound
    exact Option.some.inj hfound
  exact hne (hbhost.symm.trans (hsame ▸ hahost))

namespace Controller

open RouterBinding.Action

/-- Once a port has left a host the agent there keeps the routers that it had, except those that the
port attaches to where it is now and that no other port holds on the host. -/
theorem bound_after_update {c : Controller} (hd : c.directory.Serving) (hplain : c.directory.Plain)
    {original port : Port} (hstored : c.directory.ports.get? port.id = some port)
    {host : String} (hdeparts : original.Departs port host) {a : Agent}
    (ha : c.directory.agentOn? host = some a) (ctx : Context) (router : String) :
    ((portUpdated ctx original port).runOn c).2.store.hasHost router a.id = .ok true ↔
      c.store.hasHost router a.id = .ok true ∧
        ¬(c.directory.Attaches port router ∧
          ¬c.directory.HeldBeside original.id host router) := by
  obtain ⟨hid, hserviced, hhost, hgone⟩ := hdeparts
  have hstored : c.directory.ports.get? original.id = some port := hid ▸ hstored
  have hleft : c.directory.left? original.id original.host = some host := by
    rw [PortOperation.left_stored hstored, hhost, Option.some_or]
  generalize hrs : c.directory.leaving ctx.elevated original.id original.host = rs
  -- the port is sought where it was, and found with the addresses that it has now
  have hdue : ∀ q, q ∈ rs ↔ c.directory.Attaches port q.router ∧
      ¬c.directory.HeldBeside original.id host q.router ∧ q = ⟨q.router, host, a.id⟩ := by
    intro q
    rw [← hrs]
    exact Directory.mem_leaving_held hstored hleft ha
  have hdropped : (⟨router, a.id⟩ : HostBinding) ∈ rs.map (fun q => ⟨q.router, q.agent⟩) ↔
      c.directory.Attaches port router ∧ ¬c.directory.HeldBeside original.id host router := by
    rw [List.mem_map]
    constructor
    · rintro ⟨q, hq, heq⟩
      obtain ⟨hattached, hfree, -⟩ := (hdue q).1 hq
      obtain rfl : q.router = router := congrArg HostBinding.router heq
      exact ⟨hattached, hfree⟩
    · rintro ⟨hattached, hfree⟩
      exact ⟨⟨router, host, a.id⟩, (hdue _).2 ⟨hattached, hfree, rfl⟩, rfl⟩
  have hrouters : ∀ q ∈ rs, ∃ r, c.directory.routers.get? q.router = some r ∧
      r.hasGateway = false := by
    intro q hq
    obtain ⟨i, hi, -, -, howner, hdevice, -⟩ := ((hdue q).1 hq).1
    exact hdevice ▸ hplain i hi howner
  obtain ⟨d, sent, hdeparted, hlinks⟩ := departed_no_gateway hd ctx hrs hrouters
  have harrived : SameAt a.id ((departed ctx original).runOn c).2
      ((portUpdated ctx original port).runOn c).2 := by
    have hleaves : (original.isServiced && !port.isServiced || leaves original port) = true := by
      rcases hgone with hmoved | hunserviced
      · simp [leaves, hhost, hmoved]
      · simp [hserviced, hunserviced]
    rw [portUpdated, if_pos hleaves, run_on_bind, hdeparted]
    simp only
    split
    next hstays =>
      have hmoved : port.host ≠ some host := by
        rcases hgone with hmoved | hunserviced
        · exact hmoved
        · rw [hunserviced] at hstays
          cases hstays
      refine arrived_same_at (hd.relinks hlinks) ctx original fun b hb => ?_
      obtain ⟨newHost, hnew, hon⟩ := Option.bind_eq_some_iff.1 hb
      rw [hlinks.same (·.agentOn? newHost) fun _ _ => rfl] at hon
      refine hd.agent_elsewhere hon ha fun heq => hmoved ?_
      rw [hnew, heq]
    next => exact refl_of _ _
  rw [harrived router, hdeparted, Store.has_host_foldl_drop_host, ← hdropped]
  by_cases hmem : (⟨router, a.id⟩ : HostBinding) ∈ rs.map (fun q => ⟨q.router, q.agent⟩)
  · rw [if_pos hmem]
    simp [-List.mem_map, hmem]
  · rw [if_neg hmem]
    simp [-List.mem_map, hmem]

end Controller

namespace Exchange

/-- A router stays bound to the agent of a host where nothing holds it any more: the port that left
the host attached to the router by the addresses that it had, and by those that it has now it does
not. -/
structure LeftBehind (x : Exchange) (original port : Port) (host agent router : String) : Prop where
  bound : x.controller.store.hasHost router agent = .ok true
  attached : (x.controller.directory.putPort port).Attaches original router
  parted : ¬(x.controller.directory.putPort port).Attaches port router
  unheld : ¬(x.controller.directory.putPort port).HeldBeside port.id host router

/-- When a serviced port leaves a host with an agent and all routers are known and have no gateway,
the routers that it attached to are unbound from the agent unless another port holds them there,
except those that it leaves behind. -/
theorem unheld_unbound_iff {x : Exchange} (hbus : x.Registered)
    (hd : x.controller.directory.restored.Serving) {original port : Port}
    (hplain : (x.controller.directory.putPort port).Plain) {host : String}
    (hdeparts : original.Departs port host) {a : Agent}
    (ha : x.controller.directory.agentOn? host = some a) {nesting : Nat} {ctx : Context}
    {y : Exchange} (hrun : x.updatePort (nesting + 1) ctx original port = some (.ok (), y))
    (router : String)
    (hattached : (x.controller.directory.putPort port).Attaches original router) :
    (y.controller.store.hasHost router a.id = .ok true →
        (x.controller.directory.putPort port).HeldBeside port.id host router) ↔
      ¬x.LeftBehind original port host a.id router := by
  have hstored : (x.controller.directory.putPort port).ports.get? port.id = some port :=
    Table.get_insert_self _ _ _
  have hbound := Controller.bound_after_update
    (c := { x.restored.controller with
      directory := x.restored.controller.directory.putPort port })
    (hd.put_port port) hplain hstored hdeparts ha ctx router
  have hrestored := publish_restored (x := x.changeDirectory (·.putPort port)) hbus hrun
  have hafter : y.controller.store =
      ((Controller.portUpdated ctx original port).runOn { x.restored.controller with
        directory := x.restored.controller.directory.putPort port }).2.store := by
    rw [publish_registered (x := (x.changeDirectory (·.putPort port)).restored) hbus] at hrestored
    exact congrArg (fun y : Exchange => y.controller.store)
      (congrArg Prod.snd (Option.some.inj hrestored)).symm
  rw [hafter]
  rw [← hdeparts.same] at hbound
  constructor
  · intro hheld hbehind
    refine hbehind.unheld (hheld (hbound.2 ⟨hbehind.bound, fun h => hbehind.parted h.1⟩))
  · intro hstays hafter
    obtain ⟨hbefore, hkept⟩ := hbound.1 hafter
    by_contra hunheld
    exact hstays ⟨hbefore, hattached, fun hattaches => hkept ⟨hattaches, hunheld⟩, hunheld⟩

end Exchange

/-! ## A port that moves to another subnet -/

namespace SoleHost

/-- The serviced port, on a host without agent and on another subnet. -/
def moved : Port := { port with boundHost := some "h2", fixedIps := [⟨"s2", "10.0.1.5"⟩] }

/-- The exchange once the port has moved. -/
def vacated : Exchange :=
  { occupied with controller :=
    ((Controller.portUpdated .administrator port moved).runOn
      { occupied.controller with directory := occupied.controller.directory.putPort moved }).2 }

theorem moved_departs : port.Departs moved "h1" := ⟨rfl, rfl, rfl, .inl (by decide)⟩

theorem moved_published :
    occupied.updatePort 64 .administrator port moved = some (.ok (), vacated) := by
  obtain ⟨hbus, -⟩ := occupied_reachable.serving
  rw [Exchange.updatePort,
    Exchange.publish_registered (x := occupied.changeDirectory (·.putPort moved)) hbus]
  rfl

theorem moved_ports :
    (occupied.controller.directory.putPort moved).ports.values = [interface, moved] := rfl

theorem moved_plain : (occupied.controller.directory.putPort moved).Plain := by
  intro q hq howner
  rw [moved_ports, List.mem_cons, List.mem_singleton] at hq
  rcases hq with rfl | rfl
  · exact ⟨plain, by decide +kernel, rfl⟩
  · exact absurd howner (by decide)

theorem moved_attached : (occupied.controller.directory.putPort moved).Attaches port plain.id := by
  exact ⟨interface, by simp [moved_ports], ⟨"s1", "10.0.0.5"⟩, List.mem_singleton_self _, rfl, rfl,
    List.mem_singleton_self _⟩

end SoleHost

namespace Exchange

open SoleHost in
theorem unheld_unbound_iff_moved :
    occupied.Registered ∧ occupied.controller.directory.restored.Serving ∧
      (occupied.controller.directory.putPort moved).Plain ∧ port.Departs moved "h1" ∧
      occupied.controller.directory.agentOn? "h1" = some agent ∧
      occupied.updatePort 64 .administrator port moved = some (.ok (), vacated) ∧
      (occupied.controller.directory.putPort moved).Attaches port plain.id ∧
      ((vacated.controller.store.hasHost plain.id agent.id = .ok true →
          (occupied.controller.directory.putPort moved).HeldBeside moved.id "h1" plain.id) ↔
        ¬occupied.LeftBehind port moved "h1" agent.id plain.id) := by
  obtain ⟨hbus, hserving, -⟩ := occupied_reachable.serving
  have ha : occupied.controller.directory.agentOn? "h1" = some agent := rfl
  exact ⟨hbus, hserving, moved_plain, moved_departs, ha, moved_published, moved_attached,
    unheld_unbound_iff hbus hserving moved_plain moved_departs ha moved_published plain.id
      moved_attached⟩

open SoleHost in
/-- A serviced port leaves its host and its subnet at once. The router on the subnet stays bound to
the agent of the host, where nothing holds it any more. -/
theorem router_left_behind :
    occupied.updatePort 64 .administrator port moved = some (.ok (), vacated) ∧
      (occupied.controller.directory.putPort moved).Plain ∧ port.Departs moved "h1" ∧
      occupied.controller.directory.agentOn? "h1" = some agent ∧
      (occupied.controller.directory.putPort moved).Attaches port plain.id ∧
      vacated.controller.store.hasHost plain.id agent.id = .ok true ∧
      ¬(occupied.controller.directory.putPort moved).HeldBeside moved.id "h1" plain.id := by
  obtain ⟨-, -, hsound⟩ := occupied_reachable.serving
  have hstore : vacated.controller.store = occupied.controller.store := by decide +kernel
  refine ⟨moved_published, moved_plain, moved_departs, rfl, moved_attached, ?_, ?_⟩
  · rw [hstore, hsound.has_host]
    exact congrArg Except.ok (by decide +kernel)
  · rintro ⟨p, hp, hother, -, hhost, -⟩
    rw [moved_ports, List.mem_cons, List.mem_singleton] at hp
    rcases hp with rfl | rfl
    · cases hhost
    · exact hother rfl

end Exchange

end RouterBinding
