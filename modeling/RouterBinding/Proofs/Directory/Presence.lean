import RouterBinding.Directory.Presence

/-!
# Answers of a directory that is up

A directory is `Serving` if no service is out and every row is filed under its own id. All questions
have an answer then, and the answers about where routers are needed come down to ports:
`mem_attached` says which routers attach to an address, and `needs_iff` which serviced ports keep a
router on a host. Creating and deleting ports, agents, routers and links keeps a directory serving.
-/

namespace RouterBinding

namespace Table

variable {κ α : Type} [Ord κ] [Std.LawfulEqOrd κ]

theorem mem_values {t : Table κ α} {a : α} : a ∈ t.values ↔ ∃ k, t.get? k = some a := by
  simp only [values, List.mem_map, Prod.exists, exists_eq_right]
  exact exists_congr fun k => mem_rows_iff t

/-- Every row of a table lies under the key of its item. -/
def Filed (key : α → κ) (t : Table κ α) : Prop := ∀ k a, t.get? k = some a → key a = k

omit [Std.LawfulEqOrd κ] in
theorem Filed.empty {key : α → κ} : Filed key (∅ : Table κ α) := by
  intro k a h
  simp at h

theorem Filed.insert [Std.TransOrd κ] {key : α → κ} {t : Table κ α} (ht : Filed key t) (a : α) :
    Filed key (t.insert (key a) a) := by
  intro k b h
  rw [get_insert] at h
  split at h
  next heq =>
    obtain rfl : a = b := by simpa using h
    simpa using heq
  next => exact ht k b h

theorem Filed.erase {key : α → κ} {t : Table κ α} (ht : Filed key t) (k : κ) :
    Filed key (t.erase k) := by
  intro l b h
  rw [get_erase] at h
  split at h
  · cases h
  · exact ht l b h

/-- In a filed table an item is listed exactly if its key finds it. -/
theorem Filed.mem_values {key : α → κ} {t : Table κ α} (ht : Filed key t) {a : α} :
    a ∈ t.values ↔ t.get? (key a) = some a := by
  rw [Table.mem_values]
  constructor
  · rintro ⟨k, h⟩
    exact ht k a h ▸ h
  · intro h
    exact ⟨key a, h⟩

end Table

namespace Directory

/-- A directory differs from another in links only. -/
def Relinks (d d' : Directory) : Prop := ∃ ls : List InterfaceLink, d' = ls.foldl putLink d

namespace Relinks

variable {d d' d'' : Directory}

theorem refl (d : Directory) : Relinks d d := ⟨[], rfl⟩

theorem put (d : Directory) (l : InterfaceLink) : Relinks d (d.putLink l) := ⟨[l], rfl⟩

theorem trans (h : Relinks d d') (h' : Relinks d' d'') : Relinks d d'' := by
  obtain ⟨ls, rfl⟩ := h
  obtain ⟨ls', rfl⟩ := h'
  exact ⟨ls ++ ls', by rw [List.foldl_append]⟩

theorem eq_with_links (h : Relinks d d') : d' = { d with links := d'.links } := by
  obtain ⟨ls, rfl⟩ := h
  induction ls generalizing d with
  | nil => rfl
  | cons l ls ih =>
      rw [List.foldl_cons, ih]
      rfl

/-- What the links have no part in stays as it is. -/
theorem same {α : Type} (h : Relinks d d') (f : Directory → α)
    (hf : ∀ d links, f { d with links := links } = f d) : f d' = f d := by
  rw [h.eq_with_links, hf]

theorem routers_eq (h : Relinks d d') : d'.routers = d.routers := h.same (·.routers) fun _ _ => rfl

end Relinks

/-- A service that answers gives the answer of the tables. -/
theorem of_ask_ok {α : Type} {d : Directory} {service : Service} {answer x : α}
    (h : d.ask service answer = .ok x) : x = answer := by
  unfold ask at h
  split at h
  · cases h
  · cases h
    rfl

/-- A directory without outages whose rows lie under their own ids. -/
structure Serving (d : Directory) : Prop where
  up : d.outages = []
  ports : d.ports.Filed Port.id
  links : d.links.Filed InterfaceLink.key
  agents : d.agents.Filed Agent.id
  routers : d.routers.Filed Router.id

namespace Serving

variable {d : Directory}

theorem empty : Serving ∅ := ⟨rfl, .empty, .empty, .empty, .empty⟩

theorem put_port (hd : d.Serving) (p : Port) : (d.putPort p).Serving :=
  { hd with ports := hd.ports.insert p }

theorem remove_port (hd : d.Serving) (id : String) : (d.removePort id).Serving :=
  { hd with ports := hd.ports.erase id }

theorem put_agent (hd : d.Serving) (a : Agent) : (d.putAgent a).Serving :=
  { hd with agents := hd.agents.insert a }

theorem remove_agent (hd : d.Serving) (id : String) : (d.removeAgent id).Serving :=
  { hd with agents := hd.agents.erase id }

theorem put_router (hd : d.Serving) (r : Router) : (d.putRouter r).Serving :=
  { hd with routers := hd.routers.insert r }

theorem put_link (hd : d.Serving) (l : InterfaceLink) : (d.putLink l).Serving :=
  { hd with links := hd.links.insert l }

theorem relinks {d' : Directory} (hd : d.Serving) (h : d.Relinks d') : d'.Serving := by
  obtain ⟨ls, rfl⟩ := h
  induction ls generalizing d with
  | nil => exact hd
  | cons l ls ih => exact ih (hd.put_link l)

theorem ask_ok {α : Type} (hd : d.Serving) (service : Service) (answer : α) :
    d.ask service answer = .ok answer := by
  simp [ask, hd.up]

end Serving

/-! ## The answers -/

/-- The ports that a filter accepts and that can be seen. -/
def visible (d : Directory) (ctx : Context) (f : PortFilter) : List Port :=
  d.ports.values.filter fun p => ctx.canSee p.tenant && f.accepts p

/-- The distributed routers with an interface on the subnet of one of the addresses. -/
def attached (d : Directory) (ctx : Context) (ips : List FixedIp) : List String :=
  distinct ((ips.map fun ip => d.visible ctx
    { subnets := [ip.subnet], owners := [DeviceOwner.routerInterface] }).flatten.map (·.device))

/-- The addresses of a port that can be seen. -/
def addresses (d : Directory) (ctx : Context) (port : String) : List FixedIp :=
  (((d.ports.get? port).filter fun p => ctx.canSee p.tenant).map (·.fixedIps)).getD []

/-- The subnets of the first addresses of a router's ports. -/
def subnets (d : Directory) (ctx : Context) (router : String) : List String :=
  distinct ((d.visible ctx { devices := [router] }).filterMap fun p =>
    p.fixedIps.head?.map (·.subnet))

/-- Whether a serviced port on a host keeps a router there, other than the excepted one. -/
def needs (d : Directory) (ctx : Context) (host router : String) (except? : Option String) : Bool :=
  (d.subnets ctx router).any fun subnet =>
    (d.visible ctx { subnets := [subnet], host := some host }).any fun p =>
      p.isServiced && some p.id ≠ except?

/-- The first agent of a host. -/
def agentOn? (d : Directory) (host : String) : Option Agent :=
  (d.agents.values.filter fun a => a.host = host).head?

/-- The ports are listed while their service is up, whatever else is out and however they are
filed. -/
theorem ports_where_up {d : Directory} (hup : Service.ports ∉ d.outages) (ctx : Context)
    (f : PortFilter) : d.portsWhere ctx f = .ok (d.visible ctx f) := if_neg hup

/-- Whether a router is needed is asked of the ports alone. -/
theorem needs_router_up {d : Directory} (hup : Service.ports ∉ d.outages) (ctx : Context)
    (host router : String) (except? : Option String) :
    d.needsRouter ctx host router except? = .ok (d.needs ctx host router except?) := by
  have hports : d.subnetsOfRouter ctx router = .ok (d.subnets ctx router) := by
    rw [subnetsOfRouter, ports_where_up hup]
    rfl
  rw [needsRouter, hports]
  show d.servicedOnHost ctx host (d.subnets ctx router) except? = _
  have hon : (fun subnet => (do
      let ports ← d.portsOnHost ctx host subnet
      return ports.any fun p => p.isServiced && some p.id ≠ except? : Except Fault Bool)) =
      fun subnet => pure ((d.visible ctx { subnets := [subnet], host := some host }).any fun p =>
        p.isServiced && some p.id ≠ except?) := by
    funext subnet
    rw [portsOnHost, ports_where_up hup]
    rfl
  rw [servicedOnHost, hon, List.anyM_pure]
  rfl

namespace Serving

variable {d : Directory}

theorem router_of (hd : d.Serving) (id : String) : d.router? id = .ok (d.routers.get? id) :=
  hd.ask_ok _ _

theorem ports_up (hd : d.Serving) : Service.ports ∉ d.outages := by simp [hd.up]

theorem ports_where (hd : d.Serving) (ctx : Context) (f : PortFilter) :
    d.portsWhere ctx f = .ok (d.visible ctx f) := ports_where_up hd.ports_up ctx f

theorem routers_on (hd : d.Serving) (ctx : Context) (ips : List FixedIp) :
    d.routersOn ctx ips = .ok (d.attached ctx ips) := by
  have hon : (fun ip : FixedIp => d.interfacesOn ctx ip.subnet) = fun ip =>
      pure (d.visible ctx { subnets := [ip.subnet], owners := [DeviceOwner.routerInterface] }) :=
    funext fun ip => hd.ports_where ctx _
  rw [routersOn, hon, List.mapM_pure]
  rfl

theorem addresses_of (hd : d.Serving) (ctx : Context) (port : String) :
    d.addressesOf ctx port = .ok (d.addresses ctx port) := by
  rw [addressesOf, port?, hd.ask_ok, addresses]
  cases (d.ports.get? port).filter fun p => ctx.canSee p.tenant <;> rfl

theorem routers_of_port (hd : d.Serving) (ctx : Context) (port : String) :
    d.routersOfPort ctx port = .ok (d.attached ctx (d.addresses ctx port)) := by
  rw [routersOfPort, hd.addresses_of]
  exact hd.routers_on ctx _

theorem needs_router (hd : d.Serving) (ctx : Context) (host router : String)
    (except? : Option String) :
    d.needsRouter ctx host router except? = .ok (d.needs ctx host router except?) :=
  needs_router_up hd.ports_up ctx host router except?

theorem agent_on_host (hd : d.Serving) (host : String) :
    d.agentOnHost? host = .ok (d.agentOn? host) := by
  have hfilter : AgentFilter.accepts { host := some host } = fun a => decide (a.host = host) := by
    funext a
    simp [AgentFilter.accepts]
  rw [agentOnHost?, agentsWhere, hd.ask_ok, hfilter]
  rfl

theorem interfaces_of (hd : d.Serving) (ctx : Context) (router : String) :
    d.interfacesOf ctx router = .ok (d.visible ctx
      { devices := [router], owners := [DeviceOwner.routerInterface] }) := hd.ports_where _ _

end Serving

/-! ## The answers in terms of ports -/

variable {d : Directory} {ctx : Context}

theorem mem_visible {f : PortFilter} {p : Port} :
    p ∈ d.visible ctx f ↔ p ∈ d.ports.values ∧ ctx.canSee p.tenant ∧ f.accepts p := by
  simp [visible]

/-- An interface of a distributed router is a port of its on a subnet. -/
structure IsInterface (router subnet : String) (q : Port) : Prop where
  owner : q.owner = DeviceOwner.routerInterface
  device : q.device = router
  subnet : subnet ∈ q.subnets

/-- A router attaches to an address by an interface on its subnet. -/
theorem mem_attached {ips : List FixedIp} {router : String} :
    router ∈ d.attached ctx ips ↔
      ∃ q ∈ d.ports.values, ctx.canSee q.tenant ∧ ∃ ip ∈ ips, IsInterface router ip.subnet q := by
  simp only [attached, mem_distinct, List.mem_map, List.mem_flatten]
  constructor
  · rintro ⟨q, ⟨_, ⟨ip, hip, rfl⟩, hq⟩, rfl⟩
    obtain ⟨hmem, hsee, haccepts⟩ := mem_visible.1 hq
    simp only [PortFilter.accepts, List.isEmpty_cons, Bool.false_or, Bool.and_eq_true,
      List.any_eq_true, List.mem_singleton, decide_eq_true_eq] at haccepts
    obtain ⟨⟨⟨⟨subnet, hsubnet, rfl⟩, howner⟩, -⟩, -⟩ := haccepts
    exact ⟨q, hmem, hsee, ip, hip, howner, rfl, hsubnet⟩
  · rintro ⟨q, hmem, hsee, ip, hip, howner, hdevice, hsubnet⟩
    refine ⟨q, ⟨_, ⟨ip, hip, rfl⟩, mem_visible.2 ⟨hmem, hsee, ?_⟩⟩, hdevice⟩
    simp [PortFilter.accepts, hsubnet, howner]

/-- A serviced port keeps a router on a host if it is bound there, with an address on a subnet. -/
structure Keeps (host subnet : String) (except? : Option String) (p : Port) : Prop where
  serviced : p.isServiced
  other : some p.id ≠ except?
  host : p.host = some host
  subnet : subnet ∈ p.subnets

/-- A router is needed on a host if a serviced port there has an address on the subnet of the first
address of one of the router's ports. -/
theorem needs_iff {host router : String} {except? : Option String} :
    d.needs ctx host router except? ↔
      ∃ q ∈ d.ports.values, ctx.canSee q.tenant ∧ q.device = router ∧
        ∃ ip ∈ q.fixedIps.head?, ∃ p ∈ d.ports.values, ctx.canSee p.tenant ∧
          Keeps host ip.subnet except? p := by
  simp only [needs, List.any_eq_true, subnets, mem_distinct, List.mem_filterMap]
  constructor
  · rintro ⟨subnet, ⟨q, hq, hsubnet⟩, p, hp, hkeeps⟩
    obtain ⟨ip, hip, rfl⟩ := Option.map_eq_some_iff.1 hsubnet
    obtain ⟨hqmem, hqsee, hqaccepts⟩ := mem_visible.1 hq
    obtain ⟨hpmem, hpsee, hpaccepts⟩ := mem_visible.1 hp
    simp only [PortFilter.accepts, List.isEmpty_cons, List.isEmpty_nil, Bool.true_or,
      Bool.false_or, Bool.true_and, Bool.and_true, Option.all_none, Option.all_some,
      Bool.and_eq_true, List.any_eq_true, List.mem_singleton, decide_eq_true_eq]
      at hqaccepts hpaccepts
    obtain ⟨⟨subnet, hin, rfl⟩, hhost⟩ := hpaccepts
    simp only [Bool.and_eq_true, decide_eq_true_eq] at hkeeps
    exact ⟨q, hqmem, hqsee, hqaccepts, ip, hip, p, hpmem, hpsee, hkeeps.1, hkeeps.2, hhost, hin⟩
  · rintro ⟨q, hqmem, hqsee, hdevice, ip, hip, p, hpmem, hpsee, hserviced, hother, hhost, hin⟩
    refine ⟨ip.subnet, ⟨q, mem_visible.2 ⟨hqmem, hqsee, ?_⟩, ?_⟩, p,
      mem_visible.2 ⟨hpmem, hpsee, ?_⟩, ?_⟩
    · simp [PortFilter.accepts, hdevice]
    · rw [Option.mem_def.1 hip]
      rfl
    · simp [PortFilter.accepts, hin, hhost]
    · simp [hserviced, hother]

/-- To one who sees all ports it makes no difference whose they are. -/
theorem needs_iff_of_admin (hadmin : ctx.admin = true) {host router : String}
    {except? : Option String} :
    d.needs ctx host router except? ↔
      ∃ p ∈ d.ports.values, some p.id ≠ except? ∧ p.isServiced ∧ p.host = some host ∧
        ∃ q ∈ d.ports.values, q.device = router ∧ ∃ ip ∈ q.fixedIps.head?,
          ip.subnet ∈ p.subnets := by
  have hsee := Context.can_see_of_admin hadmin
  rw [needs_iff]
  constructor
  · rintro ⟨q, hq, -, hdevice, ip, hip, p, hp, -, hkeeps⟩
    exact ⟨p, hp, hkeeps.other, hkeeps.serviced, hkeeps.host, q, hq, hdevice, ip, hip,
      hkeeps.subnet⟩
  · rintro ⟨p, hp, hother, hserviced, hhost, q, hq, hdevice, ip, hip, hsubnet⟩
    exact ⟨q, hq, hsee _, hdevice, ip, hip, p, hp, hsee _, hserviced, hother, hhost, hsubnet⟩

/-- The agent of a host is one of the agents, and runs there. -/
theorem of_agent_on {host : String} {a : Agent} (h : d.agentOn? host = some a) :
    a ∈ d.agents.values ∧ a.host = host := by
  simpa using List.mem_of_head? h

end Directory

end RouterBinding
