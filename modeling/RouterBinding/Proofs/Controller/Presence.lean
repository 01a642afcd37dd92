import Mathlib.Data.List.Basic
import RouterBinding.Proofs.Controller.Write

/-!
# Routers follow ports, while the directory serves

What bringing routers to a host and tearing them down amounts to when the directory serves and the
store is sound: neither request fails. `bring_routers_serving` binds the routers that the port
attaches to and nothing else; `tear_down_clears` answers the removals of `Directory.leaving` and
takes their routers from the links of their interfaces, and `tear_down_serving` is what of that
matters to those who do not look at links.
-/

namespace RouterBinding

/-- The link of an interface that serves no router. -/
def InterfaceLink.withoutRouter (l : InterfaceLink) : InterfaceLink := { l with router := none }

namespace Directory

/-- The host that a port leaves: the given one, or that of the port. -/
def left? (d : Directory) (port : String) (host : Option String) : Option String :=
  match host.filter (· ≠ "") with
  | some host => some host
  | none => (d.ports.get? port).bind (·.host)

/-- The removal of a router from a host, if no port but the leaving one needs it there and an agent
can act on it. -/
def removal? (d : Directory) (ctx : Context) (port host router : String) : Option Removal :=
  if d.needs ctx host router (some port) then none
  else (d.agentOn? host).map fun a => ⟨router, host, a.id⟩

/-- The removals that are due when a port is gone from a host, by router. -/
def leaving (d : Directory) (ctx : Context) (port : String) (host : Option String) :
    List Removal :=
  match d.left? port host with
  | none => []
  | some host => (d.attached ctx (d.addresses ctx port)).filterMap (d.removal? ctx port host)

/-- Takes the router from the link under a key, if there is one. -/
def clear (d : Directory) (key : LinkKey) : Directory :=
  match d.links.get? key with
  | some link => d.putLink link.withoutRouter
  | none => d

def cleared (d : Directory) (keys : List LinkKey) : Directory := keys.foldl clear d

/-- The keys of the links of a router's interfaces on the host that it is to be removed from. -/
def linkKeys (d : Directory) (ctx : Context) (q : Removal) : List LinkKey :=
  (d.visible ctx { devices := [q.router], owners := [DeviceOwner.routerInterface] }).map
    fun i => ⟨i.id, q.host⟩

/-- The keys of the links of the routers to be removed when a port is gone from a host. -/
def leavingKeys (d : Directory) (ctx : Context) (port : String) (host : Option String) :
    List LinkKey :=
  (d.leaving ctx port host).flatMap (d.linkKeys ctx)

theorem relinks_cleared (d : Directory) (keys : List LinkKey) : d.Relinks (d.cleared keys) := by
  have hclear : ∀ (d : Directory) key, d.Relinks (d.clear key) := by
    intro d key
    unfold clear
    split
    · exact .put d _
    · exact .refl d
  induction keys generalizing d with
  | nil => exact .refl d
  | cons key keys ih => exact (hclear d key).trans (ih (d.clear key))

end Directory

namespace Store

/-- The store with some routers bound to an agent. -/
def withRouters (s : Store) (agent : String) (routers : List String) : Store :=
  routers.foldl (fun s r => s.withHost ⟨r, agent⟩) s

theorem Sound.with_routers {s : Store} (hs : s.Sound) (agent : String) (routers : List String) :
    (s.withRouters agent routers).Sound := by
  induction routers generalizing s with
  | nil => exact hs
  | cons r routers ih => exact ih (hs.with_host _)

theorem snat_row_with_routers (s : Store) (agent : String) (routers : List String)
    (router : String) : (s.withRouters agent routers).snatRow? router = s.snatRow? router := by
  induction routers generalizing s with
  | nil => rfl
  | cons r routers ih => exact (ih (s.withHost ⟨r, agent⟩)).trans (snat_row_with_host s _ _)

theorem is_bound_with_routers (s : Store) (agent : String) (routers : List String)
    (router other : String) :
    (s.withRouters agent routers).isBound router other =
      (decide (router ∈ routers ∧ other = agent) || s.isBound router other) := by
  induction routers generalizing s with
  | nil => simp [withRouters]
  | cons r routers ih =>
      rw [withRouters, List.foldl_cons]
      rw [show (routers.foldl _ (s.withHost ⟨r, agent⟩)).isBound router other = _ from
        ih (s.withHost ⟨r, agent⟩), is_bound_with_host]
      by_cases hr : r = router
      · by_cases ho : agent = other
        · simp [hr, ho]
        · have ho' : other ≠ agent := fun h => ho h.symm
          simp [ho, ho']
      · have hr' : router ≠ r := fun h => hr h.symm
        simp [hr, hr']

end Store

namespace Controller

open RouterBinding.Action

/-! ## Tearing down -/

/-- A request answers, takes the routers from the links under some keys, and changes nothing
else. -/
def Clears {α : Type} (a : Action α) (c : Controller) (x : α) (keys : List LinkKey) : Prop :=
  a.runOn c = (.ok x, { c with directory := c.directory.cleared keys })

namespace Clears

variable {α β : Type} {a : Action α} {c : Controller} {keys : List LinkKey}

theorem pure (x : α) : Clears (pure x) c x [] := rfl

theorem bind {f : α → Action β} {x : α} {y : β} {keys' : List LinkKey} (ha : Clears a c x keys)
    (hf : Clears (f x) { c with directory := c.directory.cleared keys } y keys') :
    Clears (a >>= f) c y (keys ++ keys') := by
  have hcleared : c.directory.cleared (keys ++ keys') =
      (c.directory.cleared keys).cleared keys' := List.foldl_append
  rw [Clears, run_on_bind, ha, hcleared]
  exact hf

/-- A request that answers and changes nothing comes first. -/
theorem after {f : α → Action β} {x : α} {y : β} (ha : a.runOn c = (.ok x, c))
    (hf : Clears (f x) c y keys) : Clears (a >>= f) c y keys := by
  rw [Clears, run_on_bind, ha]
  exact hf

theorem after_ask {question : Directory → Except Fault α} {f : α → Action β} {x : α} {y : β}
    (h : question c.directory = .ok x) (hf : Clears (f x) c y keys) :
    Clears (ask question >>= f) c y keys :=
  after (by rw [run_on_ask, h]; rfl) hf

theorem for_m {f : α → Action Unit} {g : α → List LinkKey} {items : List α}
    (hf : ∀ x ∈ items, ∀ d, c.directory.Relinks d →
      Clears (f x) { c with directory := d } () (g x)) :
    Clears (items.forM f) c () (items.flatMap g) := by
  induction items generalizing c with
  | nil => exact .pure ()
  | cons x items ih =>
      have hlinks := c.directory.relinks_cleared (g x)
      refine (hf x List.mem_cons_self _ (.refl _)).bind (ih fun y hy d h => ?_)
      exact hf y (List.mem_cons_of_mem _ hy) d (hlinks.trans h)

theorem map_m {f : α → Action β} {r : α → β} {g : α → List LinkKey} {items : List α}
    (hf : ∀ x ∈ items, ∀ d, c.directory.Relinks d →
      Clears (f x) { c with directory := d } (r x) (g x)) :
    Clears (items.mapM f) c (items.map r) (items.flatMap g) := by
  induction items generalizing c with
  | nil => exact .pure []
  | cons x items ih =>
      have hlinks := c.directory.relinks_cleared (g x)
      have hrest := ih (c := { c with directory := c.directory.cleared (g x) }) fun y hy d h =>
        hf y (List.mem_cons_of_mem _ hy) d (hlinks.trans h)
      rw [List.mapM_cons, List.flatMap_cons]
      refine (hf x List.mem_cons_self _ (.refl _)).bind ?_
      rw [← List.append_nil (items.flatMap g)]
      exact hrest.bind (.pure _)

end Clears

/-- A request answers, and changes links only. -/
def Answers {α : Type} (a : Action α) (c : Controller) (x : α) : Prop :=
  ∃ d, a.runOn c = (.ok x, { c with directory := d }) ∧ c.directory.Relinks d

theorem Clears.answers {α : Type} {a : Action α} {c : Controller} {x : α} {keys : List LinkKey}
    (h : Clears a c x keys) : Answers a c x :=
  ⟨_, h, c.directory.relinks_cleared keys⟩

variable {c : Controller}

/-- Unlinking changes no link but the one that it finds. -/
theorem unlink_clears (hd : c.directory.Serving) (host : String) (interface : Port) :
    Clears (unlink host interface) c () [⟨interface.id, host⟩] := by
  have hlink : c.directory.link? interface.id host =
      .ok (c.directory.links.get? ⟨interface.id, host⟩) := hd.ask_ok _ _
  refine .after_ask hlink ?_
  rw [Clears, Directory.cleared, List.foldl_cons, List.foldl_nil, Directory.clear]
  cases hget : c.directory.links.get? ⟨interface.id, host⟩ with
  | none => rfl
  | some link =>
      have hkey : link.key = ⟨interface.id, host⟩ := hd.links _ _ hget
      have hcontains : c.directory.links.contains link.key = true := by
        rw [Table.contains, hkey, hget]
        rfl
      have hput : c.directory.updateLink { link with router := none } =
          .ok (c.directory.putLink link.withoutRouter) := by
        rw [Directory.updateLink, hd.ask_ok]
        exact if_pos hcontains
      exact run_on_change_ok hput

theorem tear_down_router_clears (hd : c.directory.Serving) (ctx : Context)
    (port host router : String) :
    Clears (tearDownRouter ctx port host (c.directory.agentOn? host) router) c
      (c.directory.removal? ctx port host router)
      ((c.directory.removal? ctx port host router).toList.flatMap (c.directory.linkKeys ctx)) := by
  refine .after_ask (hd.needs_router ctx host router (some port)) ?_
  unfold Directory.removal?
  split
  next => exact .pure none
  next =>
    cases c.directory.agentOn? host with
    | none => exact .pure none
    | some agent =>
        refine .after_ask (hd.interfaces_of ctx router) ?_
        have hkeys : c.directory.linkKeys ctx ⟨router, host, agent.id⟩ =
            (c.directory.visible ctx { devices := [router], owners :=
              [DeviceOwner.routerInterface] }).flatMap fun i => [⟨i.id, host⟩] :=
          List.map_eq_flatMap
        rw [Option.map_some, Option.toList_some, List.flatMap_cons, List.flatMap_nil, hkeys]
        refine Clears.bind (.for_m fun i _ d h => ?_) (.pure _)
        exact unlink_clears (hd.relinks h) host i

theorem tear_down_routers_clears (hd : c.directory.Serving) (ctx : Context)
    (port host : String) (routers : List String) :
    Clears (routers.mapM (tearDownRouter ctx port host (c.directory.agentOn? host))) c
      (routers.map (c.directory.removal? ctx port host))
      ((routers.filterMap (c.directory.removal? ctx port host)).flatMap
        (c.directory.linkKeys ctx)) := by
  rw [List.filterMap_eq_flatMap_toList, List.flatMap_assoc]
  refine .map_m fun r _ d h => ?_
  have hrouter := tear_down_router_clears (c := { c with directory := d }) (hd.relinks h) ctx
    port host r
  simp only at hrouter
  rwa [h.same (·.agentOn? host) fun _ _ => rfl,
    h.same (·.removal? ctx port host r) fun _ _ => rfl,
    h.same (·.linkKeys ctx) fun _ _ => rfl] at hrouter

theorem run_on_left_host (hd : c.directory.Serving) (port : String) (host : Option String) :
    (leftHost port host).runOn c = (.ok (c.directory.left? port host), c) := by
  unfold leftHost Directory.left?
  cases host.filter (· ≠ "") with
  | some host => rfl
  | none =>
      rw [run_on_ask, Directory.hostOfPort?, hd.ask_ok]
      rfl

/-- A serving directory tells the removals that are due when a port is gone from its host, and the
links of their interfaces there lose their routers. -/
theorem tear_down_clears (hd : c.directory.Serving) (ctx : Context) (port : String)
    (host : Option String) :
    Clears (tearDown ctx port host) c (c.directory.leaving ctx.elevated port host)
      (c.directory.leavingKeys ctx.elevated port host) := by
  refine .after_ask (hd.routers_of_port ctx.elevated port)
    (.after (run_on_left_host hd port host) ?_)
  unfold Directory.leavingKeys Directory.leaving
  cases c.directory.left? port host with
  | none => exact .pure []
  | some host =>
      simp only
      split
      next hempty =>
        -- without routers there is nothing to ask, and no removals either
        rw [List.isEmpty_iff.1 hempty]
        exact .pure []
      next =>
        refine .after_ask (hd.agent_on_host host) ?_
        have hremovals := tear_down_routers_clears hd ctx.elevated port host
          (c.directory.attached ctx.elevated (c.directory.addresses ctx.elevated port))
        rw [← List.append_nil (List.flatMap _ _)]
        refine hremovals.bind ?_
        rw [List.filterMap_map, Function.id_comp]
        exact .pure _

theorem tear_down_serving (hd : c.directory.Serving) (ctx : Context) (port : String)
    (host : Option String) :
    Answers (tearDown ctx port host) c (c.directory.leaving ctx.elevated port host) :=
  (tear_down_clears hd ctx port host).answers

/-! ## Bringing routers to a host -/

theorem least_loaded_nil {s : Store} (hs : s.Sound) (router : String) :
    s.leastLoaded? router [] = .ok none := by
  obtain ⟨bound, hbound, -⟩ := hs.hosts_of_router router
  rw [Store.leastLoaded?, Store.ranked, hbound]
  rfl

/-- The only agent of a pool is chosen if the router is not bound to it. -/
theorem least_loaded_one {s : Store} (hs : s.Sound) (agent : Agent) {router : String}
    (hfree : s.isBound router agent.id = false) :
    s.leastLoaded? router [agent] = .ok (some agent.id) := by
  obtain ⟨bound, hbound, hbound_mem⟩ := hs.hosts_of_router router
  obtain ⟨load, hload, -⟩ := hs.hosts_of_agent agent.id
  -- the agent is not passed over, since none of the bindings of the router names it
  have hall : (bound.all fun b => b.agent ≠ agent.id) = true := by
    refine List.all_eq_true.2 fun b hb => ?_
    obtain ⟨hrouter, hhost⟩ := (hbound_mem b).1 hb
    simp only [decide_eq_true_eq]
    intro hagent
    rw [hrouter, hagent, hfree] at hhost
    cases hhost
  have hfilter : ([agent].filter fun a : Agent => bound.all fun b => b.agent ≠ a.id) =
      [agent] := List.filter_eq_self.2 (by simpa using hall)
  rw [Store.leastLoaded?, Store.ranked, hbound]
  show ((([agent].filter fun a : Agent => bound.all fun b => b.agent ≠ a.id).mapM fun a =>
    (do return (← s.load a.id, a.id) : Except StoreError (Nat × String))).map _) = _
  rw [hfilter, List.mapM_cons, Store.load, hload]
  rfl

/-- The only candidate gets a router that it does not have, if it is active. -/
theorem place_one (hs : c.store.Sound) (agent : Agent) {router : String}
    (hfree : c.store.isBound router agent.id = false) :
    ∃ placed, (place router [agent]).runOn c =
      (.ok placed, { c with
        store := if agent.isActive then c.store.withHost ⟨router, agent.id⟩ else c.store }) := by
  rw [run_on_place_one]
  cases hactive : agent.isActive with
  | false =>
      refine ⟨none, ?_⟩
      rw [List.filter_cons_of_neg (by simp [hactive]), List.filter_nil, least_loaded_nil hs]
      rfl
  | true =>
      refine ⟨some agent.id, ?_⟩
      rw [List.filter_cons_of_pos hactive, List.filter_nil, least_loaded_one hs agent hfree]
      rfl

theorem ensure_host_serving (hs : c.store.Sound) (agent : Agent) (router : String) :
    (ensureHost agent router).runOn c = (.ok (), { c with
      store := if agent.isActive then c.store.withHost ⟨router, agent.id⟩ else c.store }) := by
  rw [ensureHost, run_on_bind, run_on_consult, hs.has_host]
  simp only [map_error_ok]
  cases hbound : c.store.isBound router agent.id with
  -- a router that is bound already is not placed, and binding it again would change nothing
  | true => simp [Store.withHost, hbound]
  | false =>
      obtain ⟨placed, hplace⟩ := place_one hs agent hbound
      simp only [Bool.not_false, if_true]
      rw [run_on_bind, hplace]
      rfl

theorem ensure_hosts_serving (agent : Agent) (routers : List String) {c : Controller}
    (hs : c.store.Sound) :
    (routers.forM (ensureHost agent)).runOn c = (.ok (), { c with
      store := if agent.isActive then c.store.withRouters agent.id routers else c.store }) := by
  induction routers generalizing c with
  | nil => cases agent.isActive <;> rfl
  | cons r routers ih =>
      show (ensureHost agent r >>= fun _ => routers.forM (ensureHost agent)).runOn c = _
      rw [run_on_bind, ensure_host_serving hs]
      simp only
      cases hactive : agent.isActive with
      | false => simpa [hactive] using ih hs
      | true =>
          have hrest := ih (c := { c with store := c.store.withHost ⟨r, agent.id⟩ })
            (hs.with_host _)
          rw [hactive] at hrest
          exact hrest

end Controller

namespace Store

/-- The store once a port has brought its routers to its host, if an active agent is there. -/
def arrival (s : Store) (d : Directory) (ctx : Context) (port : Port) : Store :=
  match port.host.bind d.agentOn? with
  | none => s
  | some agent =>
    if agent.isActive then s.withRouters agent.id (d.attached ctx port.fixedIps) else s

theorem snat_row_arrival (s : Store) (d : Directory) (ctx : Context) (port : Port)
    (router : String) : (s.arrival d ctx port).snatRow? router = s.snatRow? router := by
  unfold arrival
  split
  · rfl
  split
  · exact snat_row_with_routers s _ _ router
  · rfl

/-- A port that arrives binds the routers that it attaches to, to the agent of its host. -/
theorem is_bound_arrival (s : Store) (d : Directory) (ctx : Context) (port : Port)
    (router agent : String) :
    (s.arrival d ctx port).isBound router agent ↔ s.isBound router agent ∨
      ∃ a, port.host.bind d.agentOn? = some a ∧ a.isActive ∧ a.id = agent ∧
        router ∈ d.attached ctx port.fixedIps := by
  unfold arrival
  cases port.host.bind d.agentOn? with
  | none => simp
  | some a =>
      cases hactive : a.isActive with
      | false => simp [hactive]
      | true =>
          simp only [if_true, is_bound_with_routers, Bool.or_eq_true, decide_eq_true_eq,
            Option.some.injEq, exists_eq_left', hactive, true_and, eq_comm (a := agent)]
          rw [or_comm, and_comm]

theorem Sound.arrival {s : Store} (hs : s.Sound) (d : Directory) (ctx : Context) (port : Port) :
    (s.arrival d ctx port).Sound := by
  unfold Store.arrival
  split
  · exact hs
  split
  · exact hs.with_routers _ _
  · exact hs

end Store

namespace Controller

open RouterBinding.Action

variable {c : Controller}

/-- Bringing routers to a host binds those that the port attaches to, and no others. -/
theorem bring_routers_serving (hd : c.directory.Serving) (hs : c.store.Sound) (ctx : Context)
    (port : Port) :
    ∃ routers sent, (bringRouters ctx port).runOn c = (.ok routers,
      { c with store := c.store.arrival c.directory ctx port, sent := sent }) := by
  unfold bringRouters Store.arrival
  cases port.host with
  | none => exact ⟨[], c.sent, rfl⟩
  | some host =>
      rw [run_on_bind, run_on_ask, hd.agent_on_host]
      simp only [map_error_ok, Option.bind_some]
      cases c.directory.agentOn? host with
      | none => exact ⟨[], c.sent, rfl⟩
      | some agent =>
          simp only
          rw [bringTo, run_on_bind, run_on_ask, hd.routers_on]
          simp only [map_error_ok]
          rw [run_on_bind, ensure_hosts_serving agent _ hs]
          simp only
          split
          · exact ⟨_, _, rfl⟩
          · exact ⟨_, _, rfl⟩

end Controller

end RouterBinding
