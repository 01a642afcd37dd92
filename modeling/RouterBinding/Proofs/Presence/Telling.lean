import Mathlib.Data.String.Basic
import RouterBinding.Proofs.Controller.Bringing
import RouterBinding.Proofs.Event.Run

/-!
# Telling a host of its routers

A port brings its routers to the agent of its host one by one, and then the host is told of all of
them at once. Placing a router passes over an agent that is not active, and the notice does not ask
how it went: `told_bound_iff` says that the routers that the host is told of are bound to its agent
exactly if the agent is active or had them before, over stores of any content and whichever services
are out. `unbound_router_told` has a host that is told of a router that it does not have.
-/

namespace RouterBinding

/-- One store has the host bindings of another one and, beside them, some that bind routers of a
list to an agent and were missing. Nothing else differs. -/
structure Store.Adds (s : Store) (routers : List String) (agent : String) (s' : Store) : Prop where
  snat : s'.snat = s.snat
  hosts : ∀ key, s'.hosts.get? key ≠ s.hosts.get? key → ∃ r ∈ routers,
    key = HostBinding.key ⟨r, agent⟩ ∧ s.hosts.get? key = none ∧
      s'.hosts.get? key = some (HostBinding.toText ⟨r, agent⟩)

namespace Store.Adds

variable {s s₁ s' : Store} {router agent : String} {routers : List String}

theorem refl (s : Store) (routers : List String) (agent : String) : s.Adds routers agent s :=
  ⟨rfl, fun _ h => absurd rfl h⟩

theorem with_host (s : Store) (router agent : String) :
    s.Adds [router] agent (s.withHost ⟨router, agent⟩) := by
  refine ⟨snat_with_host s _, fun key hkey => ⟨router, List.mem_singleton_self _, ?_⟩⟩
  obtain rfl : key = HostBinding.key ⟨router, agent⟩ := by
    by_contra hother
    exact hkey (get_hosts_with_host hother)
  unfold withHost at hkey ⊢
  cases hbound : s.isBound router agent with
  | true => simp [hbound] at hkey
  | false =>
      have hfree : s.hosts.get? (HostBinding.key ⟨router, agent⟩) = none := by
        simpa [isBound, Table.contains] using hbound
      exact ⟨rfl, hfree, Table.get_insert_self _ _ _⟩

/-- What is added first and what is added then is added in all. -/
theorem cons (h : s.Adds [router] agent s₁) (h' : s₁.Adds routers agent s') :
    s.Adds (router :: routers) agent s' := by
  refine ⟨h'.snat.trans h.snat, fun key hkey => ?_⟩
  by_cases hlater : s'.hosts.get? key = s₁.hosts.get? key
  · rw [hlater] at hkey ⊢
    obtain ⟨r, hr, hrow⟩ := h.hosts key hkey
    obtain rfl := List.mem_singleton.1 hr
    exact ⟨r, List.mem_cons_self, hrow⟩
  · obtain ⟨r, hr, heq, hfree, hrow⟩ := h'.hosts key hlater
    refine ⟨r, List.mem_cons_of_mem _ hr, heq, ?_, hrow⟩
    -- a row that was added first would be there still
    by_contra hold
    have hfirst : s₁.hosts.get? key ≠ s.hosts.get? key := fun h => hold (h ▸ hfree)
    obtain ⟨_, _, _, _, hsome⟩ := h.hosts key hfirst
    rw [hfree] at hsome
    cases hsome

end Store.Adds

namespace Controller

open RouterBinding.Action

variable {c c' : Controller} {ctx : Context} {port : Port} {agent : Agent}

/-- An agent that is not active is passed over. -/
theorem ensure_host_inactive (hinactive : agent.isActive = false) {router : String}
    (hrun : (ensureHost agent router).runOn c = (.ok (), c')) : c' = c := by
  obtain ⟨-, rfl⟩ | ⟨-, rfl⟩ | ⟨hactive, -⟩ := ensure_host_ok_cases hrun
  · rfl
  · rfl
  · rw [hinactive] at hactive
    cases hactive

/-- Ensuring a router adds at most its binding to the agent. -/
theorem ensure_host_adds {router : String}
    (hrun : (ensureHost agent router).runOn c = (.ok (), c')) :
    ∃ s, c' = { c with store := s } ∧ c.store.Adds [router] agent.id s := by
  obtain ⟨-, rfl⟩ | ⟨-, rfl⟩ | ⟨-, -, rfl⟩ := ensure_host_ok_cases hrun
  · exact ⟨_, rfl, .refl _ _ _⟩
  · exact ⟨_, rfl, .refl _ _ _⟩
  · exact ⟨_, rfl, .with_host _ _ _⟩

theorem ensure_hosts_inactive (hinactive : agent.isActive = false) {routers : List String}
    (hrun : (routers.forM (ensureHost agent)).runOn c = (.ok (), c')) : c' = c := by
  induction routers generalizing c with
  | nil => cases hrun; rfl
  | cons router routers ih =>
      obtain ⟨⟨⟩, c₁, hfirst, hrest⟩ := ok_of_bind (a := ensureHost agent router)
        (f := fun _ => routers.forM (ensureHost agent)) hrun
      rw [ih hrest, ensure_host_inactive hinactive hfirst]

theorem ensure_hosts_adds {routers : List String}
    (hrun : (routers.forM (ensureHost agent)).runOn c = (.ok (), c')) :
    ∃ s, c' = { c with store := s } ∧ c.store.Adds routers agent.id s := by
  induction routers generalizing c with
  | nil => cases hrun; exact ⟨_, rfl, .refl _ _ _⟩
  | cons router routers ih =>
      obtain ⟨⟨⟩, c₁, hfirst, hrest⟩ := ok_of_bind (a := ensureHost agent router)
        (f := fun _ => routers.forM (ensureHost agent)) hrun
      obtain ⟨s₁, rfl, hadds⟩ := ensure_host_adds hfirst
      obtain ⟨s, rfl, hadds'⟩ := ih hrest
      exact ⟨s, rfl, hadds.cons hadds'⟩

/-- The routers that are ensured are bound to the agent if it is active or had them before. -/
theorem ensure_hosts_bound_iff {routers : List String}
    (hrun : (routers.forM (ensureHost agent)).runOn c = (.ok (), c')) {r : String}
    (hr : r ∈ routers) :
    c'.store.Binds r agent.id ↔ agent.isActive ∨ c.store.Binds r agent.id := by
  cases hactive : agent.isActive with
  | false => simp [ensure_hosts_inactive hactive hrun]
  | true => simp [(ensure_hosts_binds hactive hrun).2 r agent.id, hr]

/-- A port brings no routers and changes nothing, or brings those with an interface on one of its
subnets to the agent of its host. -/
theorem bring_routers_cases {routers : List String}
    (hrun : (bringRouters ctx port).runOn c = (.ok routers, c')) :
    routers = [] ∧ c' = c ∨
      ∃ host a s, port.host = some host ∧ c.directory.agentOnHost? host = .ok (some a) ∧
        c.directory.routersOn ctx port.fixedIps = .ok routers ∧ routers ≠ [] ∧
        (routers.forM (ensureHost a)).runOn c = (.ok (), { c with store := s }) ∧
        c' = { c with store := s, sent := c.sent ++ [.routersUpdatedOnHost routers host] } := by
  unfold bringRouters at hrun
  cases hhost : port.host with
  | none =>
      rw [hhost] at hrun
      cases hrun
      exact .inl ⟨rfl, rfl⟩
  | some host =>
      rw [hhost] at hrun
      simp only at hrun
      rw [run_on_bind, run_on_ask] at hrun
      rcases hagent : c.directory.agentOnHost? host with e | _ | a <;> rw [hagent] at hrun
      · cases hrun
      · cases hrun
        exact .inl ⟨rfl, rfl⟩
      · simp only [map_error_ok] at hrun
        rw [bringTo, run_on_bind, run_on_ask] at hrun
        rcases hrouters : c.directory.routersOn ctx port.fixedIps with e | found <;>
          rw [hrouters] at hrun
        · cases hrun
        · obtain ⟨⟨⟩, c₁, hensured, htold⟩ := ok_of_bind hrun
          cases found with
          | nil =>
              cases hensured
              cases htold
              exact .inl ⟨rfl, rfl⟩
          | cons r rest =>
              obtain ⟨s, rfl, -⟩ := ensure_hosts_adds hensured
              cases htold
              exact .inr ⟨host, a, s, rfl, hagent, rfl, List.cons_ne_nil _ _, hensured, rfl⟩

/-- The routers that a host is told of when a port brings them increase strictly. One notice tells
the host of all of them, if there are any; host bindings of them to the agent of the host are added
where they were missing, and nothing else changes. A router that the host is told of is bound to the
agent exactly if the agent is active or had it before. -/
theorem told_bound_iff {routers : List String}
    (hrun : (bringRouters ctx port).runOn c = (.ok routers, c')) :
    routers.Pairwise (· < ·) ∧ c'.directory = c.directory ∧ (routers = [] → c' = c) ∧
      (routers ≠ [] → ∃ host a, port.host = some host ∧
        c.directory.agentOnHost? host = .ok (some a) ∧
        c'.sent = c.sent ++ [.routersUpdatedOnHost routers host] ∧
        c.store.Adds routers a.id c'.store ∧
        ∀ r ∈ routers, c'.store.Binds r a.id ↔ a.isActive ∨ c.store.Binds r a.id) := by
  obtain ⟨rfl, rfl⟩ | ⟨host, a, s, hhost, hagent, hrouters, hsome, hensured, rfl⟩ :=
    bring_routers_cases hrun
  · exact ⟨.nil, rfl, fun _ => rfl, fun h => absurd rfl h⟩
  · have hincreasing : routers.Pairwise (· < ·) := by
      unfold Directory.routersOn at hrouters
      cases hfound : port.fixedIps.mapM fun ip => c.directory.interfacesOn ctx ip.subnet with
      | error e =>
          rw [hfound] at hrouters
          cases hrouters
      | ok interfaces =>
          rw [hfound] at hrouters
          cases hrouters
          exact (pairwise_distinct _).imp fun h => compare_lt_iff_lt.1 h
    obtain ⟨s', hs', hadds⟩ := ensure_hosts_adds hensured
    obtain rfl : s = s' := congrArg Controller.store hs'
    exact ⟨hincreasing, rfl, fun h => absurd h hsome, fun _ =>
      ⟨host, a, hhost, hagent, rfl, hadds, fun r hr => ensure_hosts_bound_iff hensured hr⟩⟩

end Controller

/-! ## An agent that is not alive -/

namespace SoleHost

/-- The agent once its heartbeats no longer arrive. -/
def silent : Agent := { agent with alive := false }

def unattended : Controller := { start.controller with directory := directory.putAgent silent }

theorem unattended_agent : unattended.directory.agentOnHost? "h1" = .ok (some silent) := rfl

theorem unattended_brings : ∃ c', (Controller.bringRouters .administrator port).runOn unattended =
    (.ok [router.id], c') := by
  have hanswer : ((Controller.bringRouters .administrator port).runOn unattended).1 =
      .ok [router.id] := rfl
  exact ⟨_, Prod.ext hanswer rfl⟩

end SoleHost

namespace Controller

open SoleHost in
theorem told_bound_iff_unattended :
    ∃ c', (bringRouters .administrator port).runOn unattended = (.ok [router.id], c') ∧
      [router.id].Pairwise (· < ·) ∧ c'.directory = unattended.directory ∧
      ([router.id] = [] → c' = unattended) ∧
      ([router.id] ≠ [] → ∃ host a, port.host = some host ∧
        unattended.directory.agentOnHost? host = .ok (some a) ∧
        c'.sent = unattended.sent ++ [.routersUpdatedOnHost [router.id] host] ∧
        unattended.store.Adds [router.id] a.id c'.store ∧
        ∀ r ∈ [router.id], c'.store.Binds r a.id ↔ a.isActive ∨ unattended.store.Binds r a.id) := by
  obtain ⟨c', hrun⟩ := unattended_brings
  exact ⟨c', hrun, told_bound_iff hrun⟩

open SoleHost in
/-- The agent of a host is not alive when a port brings its router there. The host is told of the
router, and no host binding is stored. -/
theorem unbound_router_told :
    unattended.directory.Serving ∧ port.host = some "h1" ∧
      unattended.directory.agentOnHost? "h1" = .ok (some silent) ∧
      ∃ c', (bringRouters .administrator port).runOn unattended = (.ok [router.id], c') ∧
        c'.sent = [.routersUpdatedOnHost [router.id] "h1"] ∧
        ¬c'.store.Binds router.id silent.id := by
  obtain ⟨c', hrun⟩ := unattended_brings
  refine ⟨directory_serving.put_agent silent, rfl, unattended_agent, c', hrun, ?_⟩
  obtain ⟨hempty, -⟩ | ⟨host, a, s, hhost, hagent, -, -, hensured, rfl⟩ := bring_routers_cases hrun
  · cases hempty
  · cases hhost
    cases unattended_agent.symm.trans hagent
    obtain rfl : s = ∅ := congrArg Controller.store (ensure_hosts_inactive rfl hensured)
    refine ⟨rfl, ?_⟩
    rw [Store.Sound.empty.binds_iff, Store.is_bound_empty]
    exact Bool.false_ne_true

end Controller

end RouterBinding
