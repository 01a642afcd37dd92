import RouterBinding.Proofs.Event.Lifecycle
import RouterBinding.Proofs.Event.Run

/-!
# The links that a tear-down changes

A tear-down takes the routers from the links of their interfaces on the host that the port leaves.
`tear_down_unlinks` says that it does so for the interfaces of just the routers that it answers,
that it leaves every other link and everything else as it was, and that a second tear-down finds
nothing left to change and answers the same.
-/

namespace RouterBinding

theorem InterfaceLink.without_router_comp :
    withoutRouter ∘ withoutRouter = withoutRouter := rfl

namespace Directory

variable {d : Directory} {ctx : Context}

namespace Serving

theorem cleared (hd : d.Serving) (keys : List LinkKey) : (d.cleared keys).Serving :=
  hd.relinks (d.relinks_cleared keys)

theorem get_clear (hd : d.Serving) (key k : LinkKey) :
    (d.clear key).links.get? k =
      if k = key then (d.links.get? k).map InterfaceLink.withoutRouter else d.links.get? k := by
  have hput : ∀ link, d.links.get? key = some link →
      (d.putLink link.withoutRouter).links = d.links.insert key link.withoutRouter := by
    intro link hget
    rw [← hd.links key link hget]
    rfl
  rw [clear]
  by_cases hkey : k = key
  · subst hkey
    cases hget : d.links.get? k with
    | none => simp [hget]
    | some link => simp [hput link hget]
  · have hkey' : key ≠ k := fun h => hkey h.symm
    cases hget : d.links.get? key with
    | none => simp [hkey]
    | some link => simp [hput link hget, hkey, Table.get_insert_of_ne _ _ hkey']

/-- Taking the routers from some links leaves the links under all other keys. -/
theorem get_cleared (hd : d.Serving) (keys : List LinkKey) (k : LinkKey) :
    (d.cleared keys).links.get? k =
      if k ∈ keys then (d.links.get? k).map InterfaceLink.withoutRouter else d.links.get? k := by
  induction keys generalizing d with
  | nil => simp [Directory.cleared]
  | cons key keys ih =>
      have hrest := ih (hd.cleared [key])
      rw [show (d.cleared [key]).links.get? k = _ from hd.get_clear key k] at hrest
      rw [show d.cleared (key :: keys) = (d.cleared [key]).cleared keys from rfl, hrest]
      by_cases hkey : k = key
      · simp [hkey, InterfaceLink.without_router_comp]
      · simp [hkey]

/-- Links that have no router are as they were. -/
theorem cleared_cleared (hd : d.Serving) (keys : List LinkKey) :
    (d.cleared keys).cleared keys = d.cleared keys := by
  have hlinks : ((d.cleared keys).cleared keys).links = (d.cleared keys).links := by
    refine Table.ext_get fun k => ?_
    rw [(hd.cleared keys).get_cleared, hd.get_cleared]
    split
    · rw [Option.map_map, InterfaceLink.without_router_comp]
    · rfl
  rw [((d.cleared keys).relinks_cleared keys).eq_with_links, hlinks]

end Serving

theorem mem_link_keys {q : Removal} {key : LinkKey} :
    key ∈ d.linkKeys ctx.elevated q ↔ q.host = key.host ∧ ∃ i ∈ d.ports.values,
      i.owner = DeviceOwner.routerInterface ∧ i.device = q.router ∧ i.id = key.port := by
  obtain ⟨port, host⟩ := key
  simp only [linkKeys, List.mem_map, mem_visible, PortFilter.accepts, LinkKey.mk.injEq]
  constructor
  · rintro ⟨i, ⟨hi, -, haccepts⟩, hport, hhost⟩
    obtain ⟨howner, hdevice⟩ : i.owner = DeviceOwner.routerInterface ∧ i.device = q.router := by
      simpa using haccepts
    exact ⟨hhost, i, hi, howner, hdevice, hport⟩
  · rintro ⟨hhost, i, hi, howner, hdevice, hport⟩
    exact ⟨i, ⟨hi, rfl, by simp [howner, hdevice]⟩, hport, hhost⟩

/-- The link under a key is that of an interface, on the host that a port leaves, of a router that
is to be removed. -/
def Unlinks (d : Directory) (left : Option String) (removals : List Removal) (key : LinkKey) :
    Prop :=
  left = some key.host ∧ ∃ q ∈ removals, ∃ i ∈ d.ports.values,
    i.owner = DeviceOwner.routerInterface ∧ i.device = q.router ∧ i.id = key.port

/-- All removals are from the host that the port leaves. -/
theorem left_of_leaving {port : String} {host : Option String} {q : Removal}
    (hq : q ∈ d.leaving ctx.elevated port host) : d.left? port host = some q.host := by
  obtain ⟨left, agent, hleft, -, -, heq⟩ := mem_leaving.1 hq
  rw [hleft, heq]

theorem mem_leaving_keys {port : String} {host : Option String} {key : LinkKey} :
    key ∈ d.leavingKeys ctx.elevated port host ↔
      d.Unlinks (d.left? port host) (d.leaving ctx.elevated port host) key := by
  simp only [leavingKeys, List.mem_flatMap, mem_link_keys]
  constructor
  · rintro ⟨q, hq, hhost, hinterface⟩
    exact ⟨hhost ▸ left_of_leaving hq, q, hq, hinterface⟩
  · rintro ⟨hleft, q, hq, hinterface⟩
    exact ⟨q, hq, Option.some.inj ((left_of_leaving hq).symm.trans hleft), hinterface⟩

theorem leaving_unattended {port : String} {host : Option String}
    (hagents : ∀ a ∈ d.agents.values, d.left? port host ≠ some a.host) :
    d.leaving ctx.elevated port host = [] := by
  refine List.eq_nil_iff_forall_not_mem.2 fun q hq => ?_
  obtain ⟨left, agent, hleft, hagent, -⟩ := mem_leaving.1 hq
  obtain ⟨hmem, rfl⟩ := of_agent_on hagent
  exact hagents agent hmem hleft

end Directory

namespace Controller

open RouterBinding.Action

/-- What a tear-down answers, and the links that it leaves. -/
structure TornDown (d : Directory) (port : String) (host : Option String)
    (removals : List Removal) (links : Table LinkKey InterfaceLink) : Prop where
  /-- A removal for each router that the port abandons on a host with an agent. -/
  mem_removals : ∀ q, q ∈ removals ↔ ∃ left agent, d.left? port host = some left ∧
    d.agentOn? left = some agent ∧ d.Abandons port left q.router ∧ q = ⟨q.router, left, agent.id⟩
  increasing : removals.Pairwise fun q q' => compare q.router q'.router = .lt
  unlinked : ∀ key, d.Unlinks (d.left? port host) removals key →
    links.get? key = (d.links.get? key).map InterfaceLink.withoutRouter
  elsewhere : ∀ key, ¬d.Unlinks (d.left? port host) removals key →
    links.get? key = d.links.get? key
  /-- Without an agent on the host that the port leaves nothing happens. -/
  unattended : (∀ a ∈ d.agents.values, d.left? port host ≠ some a.host) →
    removals = [] ∧ links = d.links

variable {c : Controller}

theorem torn_down_leaving (hd : c.directory.Serving) (ctx : Context) (port : String)
    (host : Option String) :
    TornDown c.directory port host (c.directory.leaving ctx.elevated port host)
      (c.directory.cleared (c.directory.leavingKeys ctx.elevated port host)).links where
  mem_removals _ := Directory.mem_leaving
  increasing := Directory.pairwise_leaving
  unlinked key hkey := by
    rw [hd.get_cleared, if_pos (Directory.mem_leaving_keys.2 hkey)]
  elsewhere key hkey := by
    rw [hd.get_cleared, if_neg fun hmem => hkey (Directory.mem_leaving_keys.1 hmem)]
  unattended hagents := by
    rw [Directory.leavingKeys, Directory.leaving_unattended hagents]
    exact ⟨rfl, rfl⟩

/-- A tear-down does not fail. It takes the routers from the links of the interfaces of the routers
that it answers, on the host that the port leaves, and changes nothing else; once more it answers
the same and changes nothing. -/
theorem tear_down_unlinks (hd : c.directory.Serving) (ctx : Context) (port : String)
    (host : Option String) :
    ∃ removals links,
      (tearDown ctx port host).runOn c =
        (.ok removals, { c with directory := { c.directory with links := links } }) ∧
      TornDown c.directory port host removals links ∧
      (tearDown ctx port host).runOn
          { c with directory := { c.directory with links := links } } =
        (.ok removals, { c with directory := { c.directory with links := links } }) := by
  have hlinks := c.directory.relinks_cleared (c.directory.leavingKeys ctx.elevated port host)
  have hrun := tear_down_clears hd ctx port host
  have hagain := tear_down_clears (c := { c with directory := c.directory.cleared _ })
    (hd.relinks hlinks) ctx port host
  simp only at hagain
  -- the second search meets the same ports, and the links that it finds have no router
  rw [hlinks.same (·.leaving ctx.elevated port host) fun _ _ => rfl,
    hlinks.same (·.leavingKeys ctx.elevated port host) fun _ _ => rfl, Clears,
    hd.cleared_cleared] at hagain
  refine ⟨_, _, ?_, torn_down_leaving hd ctx port host, ?_⟩
  · rw [← hlinks.eq_with_links]
    exact hrun
  · rw [← hlinks.eq_with_links]
    exact hagain

end Controller

/-! ## A router linked on two hosts -/

namespace SoleHost

/-- The interface of the router is linked on the host of the agent and on another one. -/
def linked : Controller :=
  ⟨(directory.putLink ⟨"if1", "h1", some "r1"⟩).putLink ⟨"if1", "h2", some "r1"⟩, ∅, .ofSeed 0, []⟩

theorem linked_serving : linked.directory.Serving :=
  (directory_serving.put_link _).put_link _

end SoleHost

open SoleHost in
/-- When the only serviced port leaves, the router is taken from the link on its host. -/
theorem Controller.tear_down_unlinks_linked :
    linked.directory.Serving ∧ ∃ removals links,
      (tearDown ⟨some "t2", false⟩ port.id none).runOn linked =
        (.ok removals, { linked with directory := { linked.directory with links := links } }) ∧
      TornDown linked.directory port.id none removals links ∧
      (tearDown ⟨some "t2", false⟩ port.id none).runOn
          { linked with directory := { linked.directory with links := links } } =
        (.ok removals, { linked with directory := { linked.directory with links := links } }) ∧
      removals = [⟨"r1", "h1", "a1"⟩] ∧
      links.get? ⟨"if1", "h1"⟩ = some ⟨"if1", "h1", none⟩ ∧
      links.get? ⟨"if1", "h2"⟩ = some ⟨"if1", "h2", some "r1"⟩ := by
  obtain ⟨removals, links, hrun, htorn, hagain⟩ :=
    tear_down_unlinks linked_serving ⟨some "t2", false⟩ port.id none
  have hanswer : ((tearDown ⟨some "t2", false⟩ port.id none).runOn linked).1 =
      .ok [⟨"r1", "h1", "a1"⟩] := by decide +kernel
  have hremovals : removals = [⟨"r1", "h1", "a1"⟩] := by
    rw [hrun] at hanswer
    exact Except.ok.inj hanswer
  have hinterface : interface ∈ linked.directory.ports.values := by decide +kernel
  have hleft : linked.directory.left? port.id none = some "h1" := by decide +kernel
  refine ⟨linked_serving, removals, links, hrun, htorn, hagain, hremovals, ?_, ?_⟩
  · rw [htorn.unlinked _ ⟨hleft, _, by rw [hremovals]; exact List.mem_singleton_self _, interface,
      hinterface, rfl, rfl, rfl⟩]
    decide +kernel
  · rw [htorn.elsewhere _ fun h => absurd (hleft.symm.trans h.1) (by decide)]
    decide +kernel

end RouterBinding
