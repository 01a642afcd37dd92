import RouterBinding.Proofs.Controller.Removal

/-!
# Fabrics

In a `Fabric` each host has one agent at most, all agents are active, and the interfaces of
distributed routers are just the ports of the known routers. There a router is needed on a host if a
serviced port on the host shares a subnet with one of its interfaces (`Needed`), and the question
that the controller asks before it removes a router comes down to the other ports
(`Fabric.needs_iff`).
-/

namespace RouterBinding

namespace Directory

/-- A port has an address on a subnet of one of the interfaces of a router. -/
def Attaches (d : Directory) (p : Port) (router : String) : Prop :=
  ∃ q ∈ d.ports.values, ∃ ip ∈ p.fixedIps, IsInterface router ip.subnet q

/-- A serviced port wants a router on the host it is bound to. -/
structure Wants (d : Directory) (p : Port) (host router : String) : Prop where
  serviced : p.isServiced
  host : p.host = some host
  attaches : d.Attaches p router

theorem wants_iff {d : Directory} {p : Port} {host router : String} :
    d.Wants p host router ↔ p.isServiced ∧ p.host = some host ∧ d.Attaches p router :=
  ⟨fun h => ⟨h.serviced, h.host, h.attaches⟩, fun ⟨hserviced, hhost, hattaches⟩ =>
    ⟨hserviced, hhost, hattaches⟩⟩

/-- Some port wants a router on a host. -/
def Needed (d : Directory) (host router : String) : Prop :=
  ∃ p ∈ d.ports.values, d.Wants p host router

/-- A port other than the one with an id wants a router on a host. -/
def NeededBeside (d : Directory) (id host router : String) : Prop :=
  ∃ p ∈ d.ports.values, p.id ≠ id ∧ d.Wants p host router

/-- A router is to be present at an agent: some port wants it on the host of the agent. -/
def Present (d : Directory) (router agent : String) : Prop :=
  ∃ a ∈ d.agents.values, a.id = agent ∧ d.Needed a.host router

/-- A port is no interface of a distributed router, and no port of a known router. -/
structure Free (d : Directory) (p : Port) : Prop where
  owner : p.owner ≠ DeviceOwner.routerInterface
  device : d.knows p.device = false

/-- A serving directory in which agents, routers and interfaces are well set up. -/
structure Fabric (d : Directory) : Prop extends d.Serving where
  lone : ∀ a ∈ d.agents.values, ∀ b ∈ d.agents.values, a.host = b.host → a = b
  active : ∀ a ∈ d.agents.values, a.isActive
  interfaces : ∀ q ∈ d.ports.values, q.owner = DeviceOwner.routerInterface →
    ∃ r, d.routers.get? q.device = some r ∧ r.hasGateway = false
  devices : ∀ q ∈ d.ports.values, d.knows q.device →
    q.owner = DeviceOwner.routerInterface ∧ ∃ ip, q.fixedIps = [ip]

/-! ## Ports that come and go -/

namespace Serving

variable {d : Directory}

theorem mem_ports_put (hd : d.Serving) {p q : Port} :
    q ∈ (d.putPort p).ports.values ↔ q = p ∨ q.id ≠ p.id ∧ q ∈ d.ports.values := by
  rw [(hd.put_port p).ports.mem_values, hd.ports.mem_values]
  show (d.ports.insert p.id p).get? q.id = some q ↔ _
  rw [Table.get_insert]
  by_cases h : p.id = q.id
  · simp [h, eq_comm]
  · have hne : q.id ≠ p.id := fun e => h e.symm
    have hne' : q ≠ p := fun e => hne (congrArg Port.id e)
    simp [h, hne, hne']

theorem mem_ports_remove (hd : d.Serving) {id : String} {q : Port} :
    q ∈ (d.removePort id).ports.values ↔ q.id ≠ id ∧ q ∈ d.ports.values := by
  rw [(hd.remove_port id).ports.mem_values, hd.ports.mem_values]
  show (d.ports.erase id).get? q.id = some q ↔ _
  rw [Table.get_erase]
  by_cases h : id = q.id
  · simp [h]
  · have hne : q.id ≠ id := fun e => h e.symm
    simp [h, hne]

/-- A router is needed by the port with some id or by another one. -/
theorem needed_iff_beside (hd : d.Serving) (id : String) {host router : String} :
    d.Needed host router ↔ d.NeededBeside id host router ∨
      ∃ p, d.ports.get? id = some p ∧ d.Wants p host router := by
  constructor
  · rintro ⟨p, hp, hwants⟩
    by_cases h : p.id = id
    · exact .inr ⟨p, h ▸ hd.ports.mem_values.1 hp, hwants⟩
    · exact .inl ⟨p, hp, h, hwants⟩
  · rintro (⟨p, hp, -, hwants⟩ | ⟨p, hp, hwants⟩)
    · exact ⟨p, hp, hwants⟩
    · exact ⟨p, Table.mem_values.2 ⟨id, hp⟩, hwants⟩

end Serving

/-- The interfaces of distributed routers are the same in two directories. -/
def SameInterfaces (d d' : Directory) : Prop :=
  ∀ q : Port, q.owner = DeviceOwner.routerInterface → (q ∈ d'.ports.values ↔ q ∈ d.ports.values)

variable {d d' : Directory}

theorem attaches_congr (h : d.SameInterfaces d') {p : Port} {router : String} :
    d'.Attaches p router ↔ d.Attaches p router := by
  unfold Attaches
  constructor
  · rintro ⟨q, hq, ip, hip, hinterface⟩
    exact ⟨q, (h q hinterface.owner).1 hq, ip, hip, hinterface⟩
  · rintro ⟨q, hq, ip, hip, hinterface⟩
    exact ⟨q, (h q hinterface.owner).2 hq, ip, hip, hinterface⟩

theorem wants_congr (h : d.SameInterfaces d') {p : Port} {host router : String} :
    d'.Wants p host router ↔ d.Wants p host router :=
  ⟨fun w => ⟨w.serviced, w.host, (attaches_congr h).1 w.attaches⟩,
    fun w => ⟨w.serviced, w.host, (attaches_congr h).2 w.attaches⟩⟩

/-- Links have no part in what ports attach to. -/
theorem attaches_relinks (h : d.Relinks d') {p : Port} {router : String} :
    d'.Attaches p router ↔ d.Attaches p router := by
  have hports : d'.ports = d.ports := h.same (·.ports) fun _ _ => rfl
  exact attaches_congr fun q _ => by rw [hports]

/-- A port attaches to no more routers once some port is removed. -/
theorem attaches_of_removed (hd : d.Serving) {id : String} {p : Port} {router : String}
    (h : (d.removePort id).Attaches p router) : d.Attaches p router := by
  obtain ⟨q, hq, hinterface⟩ := h
  exact ⟨q, (hd.mem_ports_remove.1 hq).2, hinterface⟩

/-- Links have no part in where routers are to be present. -/
theorem present_relinks (h : d.Relinks d') {router agent : String} :
    d'.Present router agent ↔ d.Present router agent := by
  have hports : d'.ports = d.ports := h.same (·.ports) fun _ _ => rfl
  have hagents : d'.agents = d.agents := h.same (·.agents) fun _ _ => rfl
  have hinterfaces : d.SameInterfaces d' := fun q _ => by rw [hports]
  unfold Present Needed
  simp only [hports, hagents, wants_congr hinterfaces]

/-- Ports attach to the same routers by the same addresses. -/
theorem attaches_of_addresses {p p' : Port} (h : p'.fixedIps = p.fixedIps) {router : String} :
    d.Attaches p' router ↔ d.Attaches p router := by
  unfold Attaches
  rw [h]

/-- The routers that a port attaches to are found by its addresses, by one who sees all ports. -/
theorem mem_attached_iff {ctx : Context} (hadmin : ctx.admin = true) {p : Port}
    {router : String} :
    router ∈ d.attached ctx p.fixedIps ↔ d.Attaches p router := by
  rw [mem_attached]
  constructor
  · rintro ⟨q, hq, -, ip, hip, hinterface⟩
    exact ⟨q, hq, ip, hip, hinterface⟩
  · rintro ⟨q, hq, ip, hip, hinterface⟩
    exact ⟨q, hq, Context.can_see_of_admin hadmin _, ip, hip, hinterface⟩

namespace Fabric

variable {p : Port}

theorem relinks (hd : d.Fabric) (h : d.Relinks d') : d'.Fabric := by
  have hserving := hd.toServing.relinks h
  rw [h.eq_with_links] at hserving ⊢
  exact ⟨hserving, hd.lone, hd.active, hd.interfaces, hd.devices⟩

/-- A free port may come in place of another one. -/
theorem put_port (hd : d.Fabric) (hfree : d.Free p) : (d.putPort p).Fabric := by
  refine ⟨hd.toServing.put_port p, hd.lone, hd.active, fun q hq => ?_, fun q hq => ?_⟩
  · rcases hd.mem_ports_put.1 hq with rfl | ⟨-, hq⟩
    · exact fun howner => absurd howner hfree.owner
    · exact hd.interfaces q hq
  · rcases hd.mem_ports_put.1 hq with rfl | ⟨-, hq⟩
    · intro hknown
      have hknown : d.knows q.device = true := hknown
      rw [hfree.device] at hknown
      cases hknown
    · exact hd.devices q hq

theorem remove_port (hd : d.Fabric) (id : String) : (d.removePort id).Fabric :=
  ⟨hd.toServing.remove_port id, hd.lone, hd.active,
    fun q hq => hd.interfaces q (hd.mem_ports_remove.1 hq).2,
    fun q hq => hd.devices q (hd.mem_ports_remove.1 hq).2⟩

/-! ## What a fabric answers -/

theorem agent_on_iff (hd : d.Fabric) {host : String} {a : Agent} :
    d.agentOn? host = some a ↔ a ∈ d.agents.values ∧ a.host = host := by
  refine ⟨of_agent_on, fun ⟨hmem, hhost⟩ => ?_⟩
  cases hfound : d.agentOn? host with
  | none =>
      have hin : a ∈ d.agents.values.filter fun a => a.host = host := by simp [hmem, hhost]
      rw [List.head?_eq_none_iff.1 hfound] at hin
      cases hin
  | some b =>
      obtain ⟨hb, hhost'⟩ := of_agent_on hfound
      rw [hd.lone b hb a hmem (hhost'.trans hhost.symm)]

/-- Agents are told apart by their ids. -/
theorem agent_eq (hd : d.Fabric) {a b : Agent} (ha : a ∈ d.agents.values)
    (hb : b ∈ d.agents.values) (hid : a.id = b.id) : a = b := by
  rw [hd.agents.mem_values] at ha hb
  rw [hid, hb] at ha
  exact (Option.some.inj ha).symm

theorem present_iff (hd : d.Fabric) {a : Agent} (ha : a ∈ d.agents.values) {router : String} :
    d.Present router a.id ↔ d.Needed a.host router := by
  constructor
  · rintro ⟨b, hb, hid, hneeded⟩
    exact hd.agent_eq hb ha hid ▸ hneeded
  · intro hneeded
    exact ⟨a, ha, rfl, hneeded⟩

/-- A port attaches to known routers without gateway only. -/
theorem known_of_attaches (hd : d.Fabric) {router : String} (h : d.Attaches p router) :
    ∃ r, d.routers.get? router = some r ∧ r.hasGateway = false := by
  obtain ⟨q, hq, _, _, hinterface⟩ := h
  exact hinterface.device ▸ hd.interfaces q hq hinterface.owner

/-- A known router is needed on a host, but for a port, if some other port wants it there. -/
theorem needs_iff (hd : d.Fabric) {router : String} (hknown : d.knows router) {id host : String} :
    d.needs .administrator host router (some id) ↔ d.NeededBeside id host router := by
  rw [Directory.needs_iff]
  constructor
  · rintro ⟨q, hq, -, rfl, ip, hip, p, hp, -, hkeeps⟩
    -- the question is about first addresses, and the ports of a known router have no others
    obtain ⟨howner, _, hips⟩ := hd.devices q hq hknown
    have hsubnet : ip.subnet ∈ q.subnets := by
      rw [hips, List.head?_cons, Option.mem_some_iff] at hip
      simp [Port.subnets, hips, hip]
    obtain ⟨ip', hip', heq⟩ := List.mem_map.1 hkeeps.subnet
    refine ⟨p, hp, fun e => hkeeps.other (congrArg some e), hkeeps.serviced, hkeeps.host,
      q, hq, ip', hip', howner, rfl, ?_⟩
    rw [heq]
    exact hsubnet
  · rintro ⟨p, hp, hother, hserviced, hhost, q, hq, ip, hip, howner, rfl, hsubnet⟩
    obtain ⟨-, only, hips⟩ := hd.devices q hq hknown
    have heq : ip.subnet = only.subnet := by simpa [Port.subnets, hips] using hsubnet
    refine ⟨q, hq, rfl, rfl, only, by simp [hips], p, hp, rfl, hserviced, ?_, hhost, ?_⟩
    · simpa using hother
    · rw [← heq]
      exact List.mem_map.2 ⟨ip, hip, rfl⟩

end Fabric

end Directory

end RouterBinding
