import RouterBinding.Proofs.Directory.Fabric
import RouterBinding.Proofs.Event.Lifecycle
import RouterBinding.Proofs.Event.Run

/-!
# Bringing and tearing down by different questions

The routers that a port requires are found by all addresses of the interfaces on its subnets. Before
a router is torn down on a host the question is another one: whether a serviced port lies on the
subnet of the first address of any port of the router. `removals_agree_iff` says that a tear-down
removes just the routers that no other port on the host requires, but for those that the second
question misjudges; `not_misjudged` that there are none among routers whose ports are interfaces
with one address, and `removed_beside_requiring_port` that an interface with two is enough.
-/

namespace RouterBinding

namespace Directory

/-- A router is among those that are found for a port. -/
def Requires (d : Directory) (p : Port) (router : String) : Prop :=
  ∃ routers, d.routersOfPort .administrator p.id = .ok routers ∧ router ∈ routers

/-- A serviced port on a host, other than the one with an id, requires a router. -/
def RequiredBeside (d : Directory) (id host router : String) : Prop :=
  ∃ p ∈ d.ports.values, p.id ≠ id ∧ p.isServiced ∧ p.host = some host ∧ d.Requires p router

/-- A serviced port on a host, other than the one with an id, lies on the subnet of the first
address of a port of a router. -/
def HeldBeside (d : Directory) (id host router : String) : Prop :=
  ∃ p ∈ d.ports.values, p.id ≠ id ∧ p.isServiced ∧ p.host = some host ∧
    ∃ q ∈ d.ports.values, q.device = router ∧ ∃ ip ∈ q.fixedIps.head?, ip.subnet ∈ p.subnets

/-- The two questions about a router on a host have different answers. -/
inductive Misjudged (d : Directory) (id host router : String) : Prop where
  /-- A port attaches to the router, and none lies on the subnet of a first address of its ports. -/
  | overlooked (hneeded : d.NeededBeside id host router) (hheld : ¬d.HeldBeside id host router)
  /-- A port lies on the subnet of such an address, and none attaches to the router. -/
  | overrated (hheld : d.HeldBeside id host router) (hneeded : ¬d.NeededBeside id host router)

variable {d : Directory} {id host router : String}

/-- The question that is asked before a router is torn down, by one who sees all ports. -/
theorem needs_iff_held {ctx : Context} (hadmin : ctx.admin = true) :
    d.needs ctx host router (some id) ↔ d.HeldBeside id host router := by
  simp only [needs_iff_of_admin hadmin, ne_eq, Option.some.injEq, HeldBeside]

/-- A stored port requires the routers that it attaches to. -/
theorem Serving.requires_iff (hd : d.Serving) {p : Port} (hp : p ∈ d.ports.values) :
    d.Requires p router ↔ d.Attaches p router := by
  have hadmin : Context.administrator.admin = true := rfl
  have hips : d.addresses .administrator p.id = p.fixedIps := by
    rw [addresses, hd.ports.mem_values.1 hp]
    rfl
  rw [Requires, hd.routers_of_port, hips]
  simp only [Except.ok.injEq, exists_eq_left', mem_attached_iff hadmin]

theorem Serving.required_beside_iff (hd : d.Serving) :
    d.RequiredBeside id host router ↔ d.NeededBeside id host router := by
  refine exists_congr fun p => and_congr_right fun hp => and_congr_right fun _ => ?_
  rw [hd.requires_iff hp, wants_iff]

/-- A removal is due for each router that a stored port attaches to and that nothing holds on the
host of an agent. -/
theorem mem_leaving_held {ctx : Context} {p : Port} (hp : d.ports.get? id = some p)
    {left : Option String} (hleft : d.left? id left = some host) {a : Agent}
    (ha : d.agentOn? host = some a) {q : Removal} :
    q ∈ d.leaving ctx.elevated id left ↔ d.Attaches p q.router ∧
      ¬d.HeldBeside id host q.router ∧ q = ⟨q.router, host, a.id⟩ := by
  have hadmin : Context.administrator.admin = true := rfl
  have hips : d.addresses .administrator id = p.fixedIps := by
    rw [addresses, hp]
    rfl
  rw [mem_leaving, hleft, ← mem_attached_iff hadmin, ← needs_iff_held hadmin, Bool.not_eq_true,
    ← hips]
  constructor
  · rintro ⟨_, _, ⟨⟩, hon, ⟨hattached, hfree⟩, hq⟩
    cases ha.symm.trans hon
    exact ⟨hattached, hfree, hq⟩
  · rintro ⟨hattached, hfree, hq⟩
    exact ⟨host, a, rfl, ha, ⟨hattached, hfree⟩, hq⟩

/-- A router whose ports are interfaces with one address at most is not misjudged. -/
theorem not_misjudged
    (hports : ∀ q ∈ d.ports.values, q.device = router →
      q.owner = DeviceOwner.routerInterface ∧ q.fixedIps.length ≤ 1) :
    ¬d.Misjudged id host router := by
  -- the first address of such a port is the only one
  have hfirst : ∀ q ∈ d.ports.values, q.device = router → ∀ subnet,
      subnet ∈ q.subnets ↔ ∃ ip ∈ q.fixedIps.head?, ip.subnet = subnet := by
    intro q hq hdevice subnet
    obtain ⟨-, hlength⟩ := hports q hq hdevice
    match hips : q.fixedIps with
    | [] => simp [Port.subnets, hips]
    | [ip] => simp [Port.subnets, hips, eq_comm]
    | ip :: ip' :: ips => simp [hips] at hlength
  intro hmisjudged
  cases hmisjudged with
  | overlooked hneeded hheld =>
      obtain ⟨p, hp, hother, hwants⟩ := hneeded
      obtain ⟨q, hq, ip, hip, hinterface⟩ := hwants.attaches
      obtain ⟨first, hhead, heq⟩ := (hfirst q hq hinterface.device _).1 hinterface.subnet
      exact hheld ⟨p, hp, hother, hwants.serviced, hwants.host, q, hq, hinterface.device, first,
        hhead, heq ▸ List.mem_map_of_mem hip⟩
  | overrated hheld hneeded =>
      obtain ⟨p, hp, hother, hserviced, hhost, q, hq, hdevice, first, hhead, hsubnet⟩ := hheld
      obtain ⟨ip, hip, heq⟩ := List.mem_map.1 hsubnet
      exact hneeded ⟨p, hp, hother, hserviced, hhost, q, hq, ip, hip,
        (hports q hq hdevice).1, hdevice, (hfirst q hq hdevice _).2 ⟨first, hhead, heq.symm⟩⟩

end Directory

namespace Controller

open Directory

/-- Tearing down for a stored port on the host of an agent answers one removal at most for each
router, none but of routers that the port requires, and a removal of just those that no other
serviced port on the host requires, as long as none of them is misjudged. -/
theorem removals_agree_iff {c : Controller} (hd : c.directory.Serving) (ctx : Context) {p : Port}
    (hp : c.directory.ports.get? p.id = some p) {host : String} (hhost : host ≠ "") {a : Agent}
    (ha : c.directory.agentOnHost? host = .ok (some a)) :
    ∃ removals d, (tearDown ctx p.id (some host)).runOn c =
        (.ok removals, { c with directory := d }) ∧
      removals.Pairwise (fun q q' => q.router ≠ q'.router) ∧
      (∀ q ∈ removals, c.directory.Requires p q.router ∧ q = ⟨q.router, host, a.id⟩) ∧
      ∀ router, c.directory.Requires p router →
        ((⟨router, host, a.id⟩ ∈ removals ↔ ¬c.directory.RequiredBeside p.id host router) ↔
          ¬c.directory.Misjudged p.id host router) := by
  have hmem : p ∈ c.directory.ports.values := hd.ports.mem_values.2 hp
  have hagent : c.directory.agentOn? host = some a := by
    rw [hd.agent_on_host] at ha
    exact Except.ok.inj ha
  have hleft : c.directory.left? p.id (some host) = some host := by
    simp [left?, Option.filter_some, hhost]
  obtain ⟨d, hrun, -⟩ := tear_down_serving hd ctx p.id (some host)
  refine ⟨_, d, hrun, ?_, fun q hq => ?_, fun router hrequires => ?_⟩
  · refine pairwise_leaving.imp fun {q q'} hlt heq => ?_
    simp [heq] at hlt
  · obtain ⟨hattaches, -, heq⟩ := (mem_leaving_held hp hleft hagent).1 hq
    exact ⟨(hd.requires_iff hmem).2 hattaches, heq⟩
  · have hattaches : c.directory.Attaches p router := (hd.requires_iff hmem).1 hrequires
    rw [mem_leaving_held hp hleft hagent, hd.required_beside_iff]
    simp only [hattaches, true_and, and_true]
    constructor
    · rintro hagree (⟨hneeded, hheld⟩ | ⟨hheld, hneeded⟩)
      · exact hagree.1 hheld hneeded
      · exact hagree.2 hneeded hheld
    · intro hjudged
      constructor
      · intro hheld hneeded
        exact hjudged (.overlooked hneeded hheld)
      · intro hneeded hheld
        exact hjudged (.overrated hheld hneeded)

end Controller

/-! ## An interface with two addresses -/

namespace SoleHost

/-- The interface of the router on two subnets. -/
def wideInterface : Port :=
  { interface with fixedIps := [⟨"s1", "10.0.0.1"⟩, ⟨"s2", "10.0.1.1"⟩] }

/-- A serviced port on the host, on the second subnet. -/
def neighbour : Port :=
  ⟨"p2", "t1", "n1", "vm2", "compute:nova", "m2", some "h1", [⟨"s2", "10.0.1.5"⟩]⟩

def wideDirectory : Directory :=
  ((((((∅ : Directory).putAgent agent).putRouter router).putPort wideInterface).putPort
    port).putPort neighbour)

def wide : Controller := ⟨wideDirectory, ∅, .ofSeed 0, []⟩

theorem wide_directory_serving : wideDirectory.Serving :=
  ((((Directory.Serving.empty.put_agent agent).put_router router).put_port
    wideInterface).put_port port).put_port neighbour

end SoleHost

namespace Controller

open SoleHost in
theorem removals_agree_iff_wide :
    wide.directory.Serving ∧ wide.directory.ports.get? port.id = some port ∧ "h1" ≠ "" ∧
      wide.directory.agentOnHost? "h1" = .ok (some agent) ∧
      ∃ removals d, (tearDown .administrator port.id (some "h1")).runOn wide =
          (.ok removals, { wide with directory := d }) ∧
        removals.Pairwise (fun q q' => q.router ≠ q'.router) ∧
        (∀ q ∈ removals, wide.directory.Requires port q.router ∧
          q = ⟨q.router, "h1", agent.id⟩) ∧
        ∀ router, wide.directory.Requires port router →
          ((⟨router, "h1", agent.id⟩ ∈ removals ↔
              ¬wide.directory.RequiredBeside port.id "h1" router) ↔
            ¬wide.directory.Misjudged port.id "h1" router) := by
  have hp : wide.directory.ports.get? port.id = some port := by decide +kernel
  have hhost : "h1" ≠ "" := by decide
  have ha : wide.directory.agentOnHost? "h1" = .ok (some agent) := rfl
  exact ⟨wide_directory_serving, hp, hhost, ha,
    removals_agree_iff wide_directory_serving .administrator hp hhost ha⟩

open SoleHost in
/-- The router is to be removed from the host, although it is among those that are found for a
serviced port that stays there. -/
theorem removed_beside_requiring_port :
    ∃ removals d, (tearDown .administrator port.id (some "h1")).runOn wide =
        (.ok removals, { wide with directory := d }) ∧
      wide.directory.ports.get? port.id = some port ∧
      wide.directory.Requires port router.id ∧
      ⟨router.id, "h1", agent.id⟩ ∈ removals ∧
      wide.directory.RequiredBeside port.id "h1" router.id := by
  have hports : wide.directory.ports.values = [wideInterface, port, neighbour] := rfl
  have hneighbour : neighbour ∈ wide.directory.ports.values := by simp [hports]
  refine ⟨[⟨router.id, "h1", agent.id⟩], wide.directory, rfl, by decide +kernel,
    ⟨[router.id], rfl, List.mem_singleton_self _⟩, List.mem_singleton_self _,
    neighbour, hneighbour, by decide, by decide +kernel, rfl,
    ⟨[router.id], rfl, List.mem_singleton_self _⟩⟩

end Controller

end RouterBinding
