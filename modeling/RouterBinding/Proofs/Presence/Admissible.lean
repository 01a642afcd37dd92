import RouterBinding.Proofs.Directory.Fabric
import RouterBinding.Proofs.Event.Lifecycle

/-!
# Operations on the ports of a fabric

An `Admissible` operation creates, updates or deletes a port that is no part of the fabric. The
removals that it makes due and the routers that it brings are found by different questions to the
directory; `needed_step` says in terms of ports alone that together they account for what a host
needs after it, and `present_step` says so of the agents.
-/

namespace RouterBinding

namespace PortOperation

open Directory

/-- The id of the port that an operation is about. -/
def id : PortOperation → String
  | create port => port.id
  | update original _ => original.id
  | delete port => port.id

/-- The port before an operation. -/
def before? : PortOperation → Option Port
  | create _ => none
  | update original _ => some original
  | delete port => some port

/-- The port after an operation. -/
def after? : PortOperation → Option Port
  | create port => some port
  | update _ port => some port
  | delete _ => none

/-- A free port is created under a fresh id, is deleted, or is updated so that it keeps its
addresses and does not become serviced on the host that it stays on. -/
inductive Admissible (d : Directory) : PortOperation → Prop where
  | create {port : Port} (hfresh : d.ports.get? port.id = none) (hfree : d.Free port) :
      Admissible d (.create port)
  | update {original port : Port} (hstored : d.ports.get? original.id = some original)
      (horiginal : d.Free original) (hfree : d.Free port) (hid : port.id = original.id)
      (haddresses : port.fixedIps = original.fixedIps)
      (hserviced : ∀ host, original.host = some host → port.host = some host →
        port.isServiced → original.isServiced) :
      Admissible d (.update original port)
  | delete {port : Port} (hstored : d.ports.get? port.id = some port) (hfree : d.Free port) :
      Admissible d (.delete port)

/-- The host that an operation has its port leave. -/
def left? : PortOperation → Option String
  | create _ => none
  | update original port =>
    if original.isServiced && !port.isServiced || Controller.leaves original port then
      original.host.or port.host
    else none
  | delete port => port.host

namespace Admissible

variable {d : Directory} {op : PortOperation}

theorem found_before (h : op.Admissible d) : d.ports.get? op.id = op.before? := by
  cases h with
  | create hfresh hfree => exact hfresh
  | update hstored => exact hstored
  | delete hstored hfree => exact hstored

theorem found_after (h : op.Admissible d) : (op.directory d).ports.get? op.id = op.after? := by
  cases h with
  | @create port hfresh hfree =>
      show (d.ports.insert port.id port).get? port.id = some port
      simp
  | @update original port hstored horiginal hfree hid =>
      show (d.ports.insert port.id port).get? original.id = some port
      simp [hid]
  | @delete port hstored hfree =>
      show (d.ports.erase port.id).get? port.id = none
      simp

/-- Ports under other ids stay. -/
theorem mem_ports_beside (h : op.Admissible d) (hd : d.Serving) {q : Port} (hq : q.id ≠ op.id) :
    q ∈ (op.directory d).ports.values ↔ q ∈ d.ports.values := by
  cases h with
  | @create port hfresh hfree =>
      have hne : q ≠ port := fun e => hq (congrArg Port.id e)
      have hid : q.id ≠ port.id := hq
      simp [directory, hd.mem_ports_put, hne, hid]
  | @update original port hstored horiginal hfree hid =>
      have hid' : q.id ≠ port.id := fun e => hq (e.trans hid)
      have hne : q ≠ port := fun e => hid' (congrArg Port.id e)
      simp [directory, hd.mem_ports_put, hne, hid']
  | @delete port hstored hfree =>
      have hid : q.id ≠ port.id := hq
      simp [directory, hd.mem_ports_remove, hid]

theorem free_before (h : op.Admissible d) {p : Port} (hp : op.before? = some p) : d.Free p := by
  cases h with
  | create hfresh hfree => cases hp
  | update hstored horiginal => cases hp; exact horiginal
  | delete hstored hfree => cases hp; exact hfree

theorem free_after (h : op.Admissible d) {p : Port} (hp : op.after? = some p) : d.Free p := by
  cases h with
  | create hfresh hfree => cases hp; exact hfree
  | update hstored horiginal hfree => cases hp; exact hfree
  | delete hstored hfree => cases hp

/-- No interface of a router comes or goes. -/
theorem same_interfaces (h : op.Admissible d) (hd : d.Serving) :
    d.SameInterfaces (op.directory d) := by
  intro q howner
  by_cases hid : q.id = op.id
  · -- the port of the operation is free before and after, so it is no interface
    rw [(directory_serving hd op).ports.mem_values, hd.ports.mem_values, hid, h.found_before,
      h.found_after]
    constructor
    · intro hafter
      exact absurd howner (h.free_after hafter).owner
    · intro hbefore
      exact absurd howner (h.free_before hbefore).owner
  · exact h.mem_ports_beside hd hid

theorem fabric (h : op.Admissible d) (hd : d.Fabric) : (op.directory d).Fabric := by
  cases h with
  | create hfresh hfree => exact hd.put_port hfree
  | update hstored horiginal hfree => exact hd.put_port hfree
  | delete hstored hfree => exact hd.remove_port _

theorem needed_beside (h : op.Admissible d) (hd : d.Serving) {host router : String} :
    (op.directory d).NeededBeside op.id host router ↔ d.NeededBeside op.id host router := by
  unfold NeededBeside
  refine exists_congr fun p => ?_
  rw [wants_congr (h.same_interfaces hd)]
  constructor
  · rintro ⟨hp, hid, hwants⟩
    exact ⟨(h.mem_ports_beside hd hid).1 hp, hid, hwants⟩
  · rintro ⟨hp, hid, hwants⟩
    exact ⟨(h.mem_ports_beside hd hid).2 hp, hid, hwants⟩

/-- Before an operation a router is needed by its port or by another one. -/
theorem needed_before (h : op.Admissible d) (hd : d.Serving) {host router : String} :
    d.Needed host router ↔ d.NeededBeside op.id host router ∨
      ∃ p, op.before? = some p ∧ d.Wants p host router := by
  rw [hd.needed_iff_beside op.id, h.found_before]

/-- After it the other ports are the same. -/
theorem needed_after (h : op.Admissible d) (hd : d.Serving) {host router : String} :
    (op.directory d).Needed host router ↔ d.NeededBeside op.id host router ∨
      ∃ p, op.after? = some p ∧ d.Wants p host router := by
  rw [(directory_serving hd op).needed_iff_beside op.id, h.found_after, h.needed_beside hd]
  simp only [wants_congr (h.same_interfaces hd)]

/-- The routers to remove are sought in a fabric with the same interfaces and the same other
ports. -/
theorem searched_same (h : op.Admissible d) (hd : d.Fabric) :
    (op.searched d).Fabric ∧ d.SameInterfaces (op.searched d) ∧
      ∀ host router, (op.searched d).NeededBeside op.id host router ↔
        d.NeededBeside op.id host router := by
  have hafter : (op.directory d).Fabric ∧ d.SameInterfaces (op.directory d) ∧
      ∀ host router, (op.directory d).NeededBeside op.id host router ↔
        d.NeededBeside op.id host router :=
    ⟨h.fabric hd, h.same_interfaces hd.toServing, fun _ _ => h.needed_beside hd.toServing⟩
  cases h with
  | create hfresh hfree => exact hafter
  | update hstored => exact hafter
  -- a deletion is prepared while the port is still there
  | delete hstored hfree => exact ⟨hd, fun _ _ => .rfl, fun _ _ => .rfl⟩

theorem addresses_searched (h : op.Admissible d) {p : Port} (hp : op.before? = some p) :
    (op.searched d).addresses .administrator op.id = p.fixedIps := by
  have hbefore := h.found_before
  have hafter := h.found_after
  cases h with
  | create hfresh hfree => cases hp
  | @update original port hstored horiginal hfree hid haddresses =>
      cases hp
      have hafter : (d.putPort port).ports.get? p.id = some port := hafter
      show (d.putPort port).addresses .administrator p.id = _
      rw [addresses, hafter, ← haddresses]
      rfl
  | delete hstored hfree =>
      cases hp
      rw [searched, addresses, hbefore]
      rfl

end Admissible

/-- An operation releases a router from a host: its port attached to the router and leaves the
host, and no other port needs the router there. -/
structure Releases (d : Directory) (op : PortOperation) (host router : String) : Prop where
  left : op.left? = some host
  attached : ∃ p, op.before? = some p ∧ d.Attaches p router
  unneeded : ¬d.NeededBeside op.id host router

variable {d : Directory} {op : PortOperation}

theorem host_filter (p : Port) : p.host.filter (· ≠ "") = p.host := by
  simp [Port.host, Option.filter_filter]

/-- A stored port leaves the host that it had before, or else the one that it has. -/
theorem left_stored {id : String} {p : Port} (hp : d.ports.get? id = some p) (original : Port) :
    d.left? id original.host = original.host.or p.host := by
  rw [Directory.left?, host_filter, hp]
  cases original.host <;> rfl

theorem Admissible.departure_eq (h : op.Admissible d) :
    op.departure? d = op.left?.map (op.id, ·) := by
  have hafter := h.found_after
  cases h with
  | create hfresh hfree => rfl
  | @update original port =>
      have hafter : (d.putPort port).ports.get? original.id = some port := hafter
      -- the port is looked up after it is replaced, so an unbound one leaves where it comes to
      rw [departure?, left?, left_stored hafter]
      split <;> rfl
  | @delete port hstored hfree =>
      rw [departure?, left_stored hstored, Option.or_self]
      rfl

/-- The port that leaves a host was there before. -/
theorem before_of_left {host : String} (h : op.left? = some host) : ∃ p, op.before? = some p := by
  cases op with
  | create port => cases h
  | update original port => exact ⟨original, rfl⟩
  | delete port => exact ⟨port, rfl⟩

theorem Admissible.abandons_iff (h : op.Admissible d) (hd : d.Fabric) {host router : String}
    (hleft : op.left? = some host) :
    (op.searched d).Abandons op.id host router ↔ op.Releases d host router := by
  obtain ⟨p, hp⟩ := before_of_left hleft
  obtain ⟨hfabric, hinterfaces, hbeside⟩ := h.searched_same hd
  have hattached : router ∈ (op.searched d).attached .administrator
      ((op.searched d).addresses .administrator op.id) ↔ d.Attaches p router := by
    rw [h.addresses_searched hp, mem_attached_iff rfl, attaches_congr hinterfaces]
  have hneeds : d.Attaches p router →
      ((op.searched d).needs .administrator host router (some op.id) = false ↔
        ¬d.NeededBeside op.id host router) := by
    intro hattaches
    obtain ⟨r, hr, -⟩ := hfabric.known_of_attaches ((attaches_congr hinterfaces).2 hattaches)
    rw [← hbeside, ← hfabric.needs_iff (knows_of_found hr), Bool.not_eq_true]
  constructor
  · rintro ⟨hin, hfree⟩
    have hattaches := hattached.1 hin
    exact ⟨hleft, ⟨p, hp, hattaches⟩, (hneeds hattaches).1 hfree⟩
  · rintro ⟨-, ⟨p', hp', hattaches⟩, hunneeded⟩
    obtain rfl : p = p' := Option.some.inj (hp.symm.trans hp')
    exact ⟨hattached.2 hattaches, (hneeds hattaches).2 hunneeded⟩

/-- The removals that an operation makes due are those of the routers that it releases. -/
theorem Admissible.mem_due_iff (h : op.Admissible d) (hd : d.Fabric) {ctx : Context}
    {q : Removal} :
    q ∈ op.due d ctx ↔ ∃ a ∈ d.agents.values, op.Releases d a.host q.router ∧
      q = ⟨q.router, a.host, a.id⟩ := by
  have hfabric := (h.searched_same hd).1
  have hagents : (op.searched d).agents = d.agents := by cases op <;> rfl
  rw [mem_due, h.departure_eq]
  constructor
  · rintro ⟨port, host, a, hdeparture, hagent, habandons, hq⟩
    obtain ⟨_, hleft, heq⟩ := Option.map_eq_some_iff.1 hdeparture
    cases heq
    obtain ⟨hmem, rfl⟩ := hfabric.agent_on_iff.1 hagent
    exact ⟨a, hagents ▸ hmem, (h.abandons_iff hd hleft).1 habandons, hq⟩
  · rintro ⟨a, hmem, hreleases, hq⟩
    refine ⟨op.id, a.host, a, by rw [hreleases.left]; rfl,
      hfabric.agent_on_iff.2 ⟨hagents ▸ hmem, rfl⟩,
      (h.abandons_iff hd hreleases.left).2 hreleases, hq⟩

/-- An operation brings a router to a host: its port arrives there and attaches to the router. -/
def Brings (d : Directory) (ctx : Context) (op : PortOperation) (host router : String) : Prop :=
  ∃ p, Store.arriving? (op.event d ctx) = some p ∧ p.host = some host ∧ d.Attaches p router

/-- An updated port that keeps its addresses is wanted where it was before unless it leaves, and
where it arrives. -/
theorem update_moves {original port : Port} (host : String)
    (hserviced : ∀ host, original.host = some host → port.host = some host →
      port.isServiced → original.isServiced) :
    port.isServiced ∧ port.host = some host ↔
      (original.isServiced ∧ original.host = some host) ∧
        (update original port).left? ≠ some host ∨
      (Controller.arrives original port && port.isServiced) ∧ port.host = some host := by
  by_cases hfrom : original.host = some host
  · by_cases hto : port.host = some host
    · -- the port stays: it is given up if it is no longer serviced, and was serviced if it is
      have hkept : port.isServiced → original.isServiced := hserviced host hfrom hto
      have harrives : Controller.arrives original port = false := by
        simp [Controller.arrives, hfrom, hto]
      have hleaves : Controller.leaves original port = false := by
        simp [Controller.leaves, hfrom, hto]
      rw [harrives, left?, hleaves, hfrom, hto]
      cases hafter : port.isServiced with
      | false => simp
      | true => simp [hkept hafter]
    · have hleaves : Controller.leaves original port = true := by
        simp [Controller.leaves, hfrom, hto]
      simp [left?, hleaves, hfrom, hto]
  · by_cases hto : port.host = some host
    · have harrives : Controller.arrives original port = true := by
        simp [Controller.arrives, hfrom, hto]
      simp [harrives, hfrom, hto]
    · simp [hfrom, hto]

/-- A router is needed on a host after an operation if it was needed there and is not released, or
if it is brought there. -/
theorem Admissible.needed_step (h : op.Admissible d) (hd : d.Serving) (ctx : Context)
    {host router : String} :
    (op.directory d).Needed host router ↔
      d.Needed host router ∧ ¬op.Releases d host router ∨ op.Brings d ctx host router := by
  rw [h.needed_before hd, h.needed_after hd]
  by_cases hbeside : d.NeededBeside op.id host router
  · -- another port wants the router there, whatever becomes of this one
    have hkept : ¬op.Releases d host router := fun hreleases => hreleases.unneeded hbeside
    simp [hbeside, hkept]
  · have hreleases : op.Releases d host router ↔
        op.left? = some host ∧ ∃ p, op.before? = some p ∧ d.Attaches p router :=
      ⟨fun hreleases => ⟨hreleases.left, hreleases.attached⟩,
        fun ⟨hleft, hattached⟩ => ⟨hleft, hattached, hbeside⟩⟩
    simp only [hbeside, false_or, hreleases, wants_iff]
    cases h with
    | @create port hfresh hfree =>
        simp [before?, after?, Brings, event, Store.arriving?, and_assoc]
    | @update original port hstored horiginal hfree hid haddresses hserviced =>
        have hmoves := update_moves host hserviced
        have hattached : d.Attaches port router ↔ d.Attaches original router :=
          attaches_of_addresses haddresses
        by_cases hattaches : d.Attaches original router
        · simpa [before?, after?, Brings, event, Store.arriving?, and_assoc, hattached,
            hattaches] using hmoves
        · simp [before?, after?, Brings, event, Store.arriving?, and_assoc, hattached, hattaches]
    | @delete port hstored hfree =>
        simp [before?, after?, Brings, event, Store.arriving?, left?]

/-- The routers of the removals due are known and have no gateway. -/
theorem Admissible.due_known (h : op.Admissible d) (hd : d.Fabric) {ctx : Context} {q : Removal}
    (hq : q ∈ op.due d ctx) :
    ∃ r, (op.directory d).routers.get? q.router = some r ∧ r.hasGateway = false := by
  obtain ⟨a, -, ⟨-, ⟨p, -, hattaches⟩, -⟩, -⟩ := (h.mem_due_iff hd).1 hq
  exact (h.fabric hd).known_of_attaches
    ((attaches_congr (h.same_interfaces hd.toServing)).2 hattaches)

/-- A router is removed from an agent if it is released from the host of the agent. -/
theorem Admissible.due_iff (h : op.Admissible d) (hd : d.Fabric) (ctx : Context) {a : Agent}
    (ha : a ∈ d.agents.values) {router : String} :
    (∃ q ∈ op.due d ctx, q.router = router ∧ q.agent = a.id) ↔ op.Releases d a.host router := by
  constructor
  · rintro ⟨q, hq, rfl, hagent⟩
    obtain ⟨b, hb, hreleases, heq⟩ := (h.mem_due_iff hd).1 hq
    obtain rfl : b = a := hd.agent_eq hb ha (by rw [← hagent, heq])
    exact hreleases
  · intro hreleases
    exact ⟨⟨router, a.host, a.id⟩, (h.mem_due_iff hd).2 ⟨a, ha, hreleases, rfl⟩, rfl, rfl⟩

/-- A router is bound to an arriving port's agent if it is brought to the host of the agent. -/
theorem Admissible.brings_iff (h : op.Admissible d) (hd : d.Fabric) {ctx : Context}
    (hadmin : ctx.admin = true) {router agent : String} :
    (∃ port a, Store.arriving? (op.event d ctx) = some port ∧
      port.host.bind (op.directory d).agentOn? = some a ∧ a.isActive ∧ a.id = agent ∧
      router ∈ (op.directory d).attached ctx port.fixedIps) ↔
      ∃ a ∈ d.agents.values, a.id = agent ∧ op.Brings d ctx a.host router := by
  have hagents := op.directory_agents d
  simp only [mem_attached_iff hadmin, attaches_congr (h.same_interfaces hd.toServing)]
  constructor
  · rintro ⟨port, a, harriving, hagent, -, hid, hattaches⟩
    obtain ⟨host, hhost, hon⟩ := Option.bind_eq_some_iff.1 hagent
    obtain ⟨hmem, rfl⟩ := (h.fabric hd).agent_on_iff.1 hon
    exact ⟨a, hagents ▸ hmem, hid, port, harriving, hhost, hattaches⟩
  · rintro ⟨a, hmem, hid, port, harriving, hhost, hattaches⟩
    refine ⟨port, a, harriving, ?_, hd.active a hmem, hid, hattaches⟩
    rw [hhost, Option.bind_some]
    exact (h.fabric hd).agent_on_iff.2 ⟨hagents ▸ hmem, rfl⟩

/-- The routers present at an agent after an operation are those that were and are not to be
removed, and those that are brought there. -/
theorem Admissible.present_step (h : op.Admissible d) (hd : d.Fabric) {ctx : Context}
    (hadmin : ctx.admin = true) {router agent : String} :
    (op.directory d).Present router agent ↔
      (d.Present router agent ∧ ¬∃ q ∈ op.due d ctx, q.router = router ∧ q.agent = agent) ∨
      ∃ port a, Store.arriving? (op.event d ctx) = some port ∧
        port.host.bind (op.directory d).agentOn? = some a ∧ a.isActive ∧ a.id = agent ∧
        router ∈ (op.directory d).attached ctx port.fixedIps := by
  have hagents := op.directory_agents d
  rw [h.brings_iff hd hadmin]
  constructor
  · rintro ⟨a, ha, rfl, hneeded⟩
    have ha : a ∈ d.agents.values := hagents ▸ ha
    rw [h.due_iff hd ctx ha, hd.present_iff ha]
    rcases (h.needed_step hd.toServing ctx).1 hneeded with hkept | hbrings
    · exact .inl hkept
    · exact .inr ⟨a, ha, rfl, hbrings⟩
  · rintro (⟨⟨a, ha, rfl, hneeded⟩, hkept⟩ | ⟨a, ha, rfl, hbrings⟩)
    · rw [h.due_iff hd ctx ha] at hkept
      exact ⟨a, hagents ▸ ha, rfl, (h.needed_step hd.toServing ctx).2 (.inl ⟨hneeded, hkept⟩)⟩
    · exact ⟨a, hagents ▸ ha, rfl, (h.needed_step hd.toServing ctx).2 (.inr hbrings)⟩

end PortOperation

end RouterBinding
