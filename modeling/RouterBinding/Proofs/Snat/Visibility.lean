import RouterBinding.Proofs.Controller.Atomic
import RouterBinding.Proofs.Directory.Fabric
import RouterBinding.Proofs.Event.Outage
import RouterBinding.Proofs.Event.Run

/-!
# Releasing address translation by one who does not see every port

When a router gives up its address translation its host binding stays as long as serviced ports need
the router on the host. Whether they do is asked with the sight of whoever made the request. What an
administrator finds is found by all who see an interface of the router and a serviced port on its
subnet; `node_kept_iff` says that for anybody else the host binding goes, and the agent is told so,
although ports need it. A request that fails because a service is out leaves the host binding.
-/

namespace RouterBinding

namespace Directory

/-- One who asks sees a port of a router and, on the subnet of its first address, a serviced port on
a host. -/
def Shows (d : Directory) (ctx : Context) (host router : String) : Prop :=
  ∃ q ∈ d.ports.values, ctx.canSee q.tenant ∧ q.device = router ∧ ∃ ip ∈ q.fixedIps.head?,
    ∃ p ∈ d.ports.values, ctx.canSee p.tenant ∧ p.isServiced ∧ p.host = some host ∧
      ip.subnet ∈ p.subnets

variable {d : Directory} {ctx : Context} {host router : String}

theorem needs_iff_shows : d.needs ctx host router none ↔ d.Shows ctx host router := by
  rw [needs_iff]
  constructor
  · rintro ⟨q, hq, hsee, hdevice, ip, hip, p, hp, hsee', hkeeps⟩
    exact ⟨q, hq, hsee, hdevice, ip, hip, p, hp, hsee', hkeeps.serviced, hkeeps.host,
      hkeeps.subnet⟩
  · rintro ⟨q, hq, hsee, hdevice, ip, hip, p, hp, hsee', hserviced, hhost, hsubnet⟩
    exact ⟨q, hq, hsee, hdevice, ip, hip, p, hp, hsee', hserviced, by simp, hhost, hsubnet⟩

/-- An administrator sees what needs a router whose interfaces have one address each. -/
theorem shows_of_needed (hadmin : ctx.admin = true)
    (hsingle : ∀ q ∈ d.ports.values, q.owner = DeviceOwner.routerInterface → q.device = router →
      ∃ ip, q.fixedIps = [ip]) (hneeded : d.Needed host router) : d.Shows ctx host router := by
  have hsee := Context.can_see_of_admin hadmin
  obtain ⟨p, hp, hserviced, hhost, q, hq, ip, hip, howner, hdevice, hsubnet⟩ := hneeded
  obtain ⟨only, hips⟩ := hsingle q hq howner hdevice
  have honly : ip.subnet = only.subnet := by simpa [Port.subnets, hips] using hsubnet
  exact ⟨q, hq, hsee _, hdevice, only, by simp [hips], p, hp, hsee _, hserviced, hhost,
    honly ▸ List.mem_map_of_mem hip⟩

end Directory

/-- A request by which a router may give up its address translation, wherever it is. -/
inductive Release where
  | node
  | unscheduled (agents : List String)
  | reconciled

namespace Release

def call (ctx : Context) (router : String) : Release → Call
  | node => .releaseSnatNode ctx router none
  | unscheduled agents => .unschedule ctx router agents
  | reconciled => .reconcile ctx router

/-- A request that fails has changed nothing. -/
theorem call_atomic (d : Directory) (ctx : Context) (router : String) (release : Release) :
    Action.Atomic d (release.call ctx router).action := by
  cases release with
  | node => exact (Controller.release_snat_node_atomic ctx router none).discard
  | unscheduled agents => exact Controller.unschedule_atomic ctx router agents
  | reconciled => exact Controller.reconcile_atomic ctx router

theorem call_steady (ctx : Context) (router : String) (release : Release) :
    Action.Steady (release.call ctx router).action := by
  cases release with
  | node => exact (Controller.release_snat_node_steady ctx router none).bind fun _ => .pure ()
  | unscheduled agents => exact Controller.unschedule_steady ctx router agents
  | reconciled => exact Controller.reconcile_steady ctx router

/-- The router gives up its address translation: it is distributed, and to be reconciled it has no
gateway any more. -/
def Reaches (d : Directory) (router : String) : Release → Prop
  | node => True
  | unscheduled _ => ∃ r, d.routers.get? router = some r ∧ r.distributed
  | reconciled => ∃ r, d.routers.get? router = some r ∧ r.distributed ∧ r.hasGateway = false

/-- A router that is not distributed is taken from an agent, whatever it translates. -/
def Unbinds (d : Directory) (router agent : String) : Release → Prop
  | unscheduled agents =>
    agent ∈ agents ∧ ∃ r, d.routers.get? router = some r ∧ r.distributed = false
  | _ => False

/-- A router gives up its address translation for one who does not see what needs it on a host. -/
structure Strands (d : Directory) (ctx : Context) (host router : String) (release : Release) :
    Prop where
  reaches : release.Reaches d router
  tenant : ctx.admin = false
  hidden : ¬d.Shows ctx host router

end Release

/-- The store once the address translation of a router is given up. -/
def Store.released (s : Store) (d : Directory) (ctx : Context) (router : String)
    (b : SnatBinding) : Store :=
  if d.needs ctx b.host router none then s.dropSnat router
  else (s.dropSnat router).dropHost ⟨router, b.agent⟩

/-- A router that had a host binding has one still, unless it was not needed. -/
theorem Store.has_host_released {s : Store} {router : String} {b : SnatBinding}
    (hbound : s.hasHost router b.agent = .ok true) (d : Directory) (ctx : Context) :
    (s.released d ctx router b).hasHost router b.agent = .ok (d.needs ctx b.host router none) := by
  unfold released
  cases d.needs ctx b.host router none with
  | true => exact hbound
  | false => simp [has_host_drop_host]

namespace Controller

open RouterBinding.Action

/-- The router stays at the agent of its SNAT binding, and no notice since then tells the host that
it is gone. -/
def KeepsNode (c c' : Controller) (router : String) (b : SnatBinding) : Prop :=
  c'.store.hasHost router b.agent = .ok true ∧
    ∃ told, c'.sent = c.sent ++ told ∧ .routerRemoved router b.host ∉ told

variable {c : Controller} {router : String} {b : SnatBinding}

/-- A release reads one row, and what else the store holds is no matter. -/
theorem release_snat_node_found (hd : c.directory.Serving)
    (hsnat : c.store.snatOf? router = .ok (some b)) (ctx : Context) :
    (releaseSnatNode ctx router none).runOn c =
      (.ok (some ⟨b, if c.directory.needs ctx b.host router none then .kept b.host
          else .removed b.host⟩),
        { c with store := c.store.released c.directory ctx router b }) := by
  rw [run_on_release_snat_node_eq, Store.snat_scoped_none, hsnat]
  simp only [hd.needs_router]
  rw [Store.released]
  cases c.directory.needs ctx b.host router none <;> rfl

/-- Where the router gives up its address translation, its host is told that it is gone only if it
was not found to be needed. -/
theorem run_reaching (hd : c.directory.Serving) (hsnat : c.store.snatOf? router = .ok (some b))
    (ctx : Context) {release : Release} (hreaches : release.Reaches c.directory router) :
    ∃ told, ((release.call ctx router).action.runOn c).2 =
        { c with store := c.store.released c.directory ctx router b, sent := c.sent ++ told } ∧
      (c.directory.needs ctx b.host router none → .routerRemoved router b.host ∉ told) := by
  have hrelease := release_snat_node_found hd hsnat ctx
  cases release with
  | node =>
      refine ⟨[], ?_, by simp⟩
      show ((releaseSnatNode ctx router none >>= fun _ => pure ()).runOn c).2 = _
      rw [run_on_bind, hrelease, List.append_nil]
      rfl
  | unscheduled agents =>
      obtain ⟨r, hr, hdistributed⟩ := hreaches
      show ∃ told, ((unschedule ctx router agents).runOn c).2 = _ ∧ _
      rw [unschedule, run_on_bind, known_router_serving hd, hr]
      simp only [hdistributed, Bool.not_true, Bool.false_eq_true, if_false]
      rw [run_on_bind, hrelease]
      cases hneeds : c.directory.needs ctx b.host router none with
      | true => exact ⟨[], by rw [List.append_nil]; rfl, by simp⟩
      | false => exact ⟨[.routerRemoved router b.host], rfl, by simp⟩
  | reconciled =>
      obtain ⟨r, hr, hdistributed, hgateway⟩ := hreaches
      show ∃ told, ((reconcile ctx router).runOn c).2 = _ ∧ _
      rw [reconcile, run_on_bind, known_router_serving hd, hr]
      simp only [hdistributed, if_true]
      rw [run_on_bind, run_on_consult, hsnat]
      simp only [map_error_ok, hgateway]
      rw [reconcileNoGateway, run_on_bind, hrelease]
      cases hneeds : c.directory.needs ctx b.host router none with
      | true => exact ⟨[.routersUpdatedOnHost [r.id] b.host], rfl, by simp⟩
      | false => exact ⟨[.routerRemoved router b.host], rfl, by simp⟩

/-- Otherwise nothing changes, unless a router that is not distributed is taken from the agent. -/
theorem run_not_reaching (hd : c.directory.Serving)
    (hsnat : c.store.snatOf? router = .ok (some b)) {agent : String}
    (hbound : c.store.hasHost router agent = .ok true) (ctx : Context) {release : Release}
    (hreaches : ¬release.Reaches c.directory router) :
    ∃ s, ((release.call ctx router).action.runOn c).2 = { c with store := s } ∧
      (s.hasHost router agent = .ok true ↔ ¬release.Unbinds c.directory router agent) := by
  have hsame : ¬release.Unbinds c.directory router agent →
      (c.store.hasHost router agent = .ok true ↔ ¬release.Unbinds c.directory router agent) :=
    fun h => iff_of_true hbound h
  cases release with
  | node => exact absurd trivial hreaches
  | unscheduled agents =>
      show ∃ s, ((unschedule ctx router agents).runOn c).2 = _ ∧ _
      rw [unschedule, run_on_bind, known_router_serving hd]
      cases hr : c.directory.routers.get? router with
      | none => exact ⟨c.store, rfl, hsame fun ⟨_, _, hr', _⟩ => by simp [hr] at hr'⟩
      | some r =>
          have hdistributed : r.distributed = false :=
            Bool.eq_false_iff.2 fun h => hreaches ⟨r, hr, h⟩
          simp only [hdistributed, Bool.not_false, if_true]
          rw [unbindHosts, run_on_commit,
            Store.commit_of_ok (Transaction.unbind_hosts_eq router agents c.store)]
          refine ⟨_, rfl, ?_⟩
          have hdropped : agents.foldl (fun s agent => s.dropHost ⟨router, agent⟩) c.store =
              (agents.map (HostBinding.mk router)).foldl Store.dropHost c.store :=
            List.foldl_map.symm
          rw [hdropped, Store.has_host_foldl_drop_host]
          by_cases hmem : agent ∈ agents
          · simp [hmem, Release.Unbinds, hr, hdistributed]
          · simp [hmem, Release.Unbinds, hbound]
  | reconciled =>
      refine ⟨c.store, ?_, hsame id⟩
      show ((reconcile ctx router).runOn c).2 = _
      rw [reconcile, run_on_bind, known_router_serving hd]
      cases hr : c.directory.routers.get? router with
      | none => rfl
      | some r =>
          cases hdistributed : r.distributed with
          | false => simp [hdistributed]
          | true =>
              have hgateway : r.hasGateway = true :=
                Bool.of_not_eq_false fun h => hreaches ⟨r, hr, hdistributed, h⟩
              simp only [hdistributed, if_true]
              rw [run_on_bind, run_on_consult, hsnat]
              simp [hgateway]

/-- While every service is up, the router stays unless the request strands it or takes it from the
agent. -/
theorem node_kept_serving (hd : c.directory.Serving)
    (hsnat : c.store.snatOf? router = .ok (some b))
    (hbound : c.store.hasHost router b.agent = .ok true)
    (hneeded : c.directory.Needed b.host router)
    (hsingle : ∀ q ∈ c.directory.ports.values, q.owner = DeviceOwner.routerInterface →
      q.device = router → ∃ ip, q.fixedIps = [ip]) (ctx : Context) (release : Release) :
    c.KeepsNode ((release.call ctx router).action.runOn c).2 router b ↔
      ¬(release.Strands c.directory ctx b.host router ∨
        release.Unbinds c.directory router b.agent) := by
  by_cases hreaches : release.Reaches c.directory router
  · -- a router that gives up its address translation is distributed
    have hnot : ¬release.Unbinds c.directory router b.agent := by
      intro hunbinds
      cases release with
      | node => exact hunbinds
      | reconciled => exact hunbinds
      | unscheduled agents =>
          obtain ⟨-, r, hr, hdistributed⟩ := hunbinds
          obtain ⟨r', hr', hdistributed'⟩ := hreaches
          cases hr.symm.trans hr'
          simp [hdistributed] at hdistributed'
    have hstrands : release.Strands c.directory ctx b.host router ↔
        ¬c.directory.needs ctx b.host router none := by
      rw [Directory.needs_iff_shows]
      constructor
      · exact fun h => h.hidden
      · intro hhidden
        refine ⟨hreaches, Bool.eq_false_iff.2 fun hadmin => hhidden ?_, hhidden⟩
        exact Directory.shows_of_needed hadmin hsingle hneeded
    obtain ⟨told, hrun, htold⟩ := run_reaching hd hsnat ctx hreaches
    rw [hrun, hstrands, or_iff_left hnot, not_not]
    unfold KeepsNode
    rw [Store.has_host_released hbound]
    constructor
    · rintro ⟨hneeds, -⟩
      exact Except.ok.inj hneeds
    · intro hneeds
      exact ⟨congrArg Except.ok hneeds, told, rfl, htold hneeds⟩
  · have hstrands : ¬release.Strands c.directory ctx b.host router := fun h => hreaches h.reaches
    obtain ⟨s, hrun, hkept⟩ := run_not_reaching hd hsnat hbound ctx hreaches
    rw [hrun, or_iff_right hstrands, ← hkept]
    exact ⟨And.left, fun h => ⟨h, [], (List.append_nil _).symm, by simp⟩⟩

/-- A router that serviced ports need on the host of the agent that translates for it stays there,
whoever has it give that up, unless the request succeeds and whoever makes it is no administrator
and does not see what needs the router, or takes a router that is not distributed from the agent. -/
theorem node_kept_iff (hd : c.directory.restored.Serving)
    (hsnat : c.store.snatOf? router = .ok (some b))
    (hbound : c.store.hasHost router b.agent = .ok true)
    (hneeded : c.directory.Needed b.host router)
    (hsingle : ∀ q ∈ c.directory.ports.values, q.owner = DeviceOwner.routerInterface →
      q.device = router → ∃ ip, q.fixedIps = [ip]) (ctx : Context) (release : Release) :
    c.KeepsNode ((release.call ctx router).action.runOn c).2 router b ↔
      ¬(((release.call ctx router).action.runOn c).1 = .ok () ∧
        (release.Strands c.directory ctx b.host router ∨
          release.Unbinds c.directory router b.agent)) := by
  rcases hrun : (release.call ctx router).action.runOn c with ⟨e | u, c'⟩
  · -- a request that fails is one unit
    have hsame := ((release.call_atomic c.directory ctx router) c rfl).2 e (by rw [hrun])
    rw [hrun] at hsame
    refine iff_of_true ⟨hsame.store ▸ hbound, [], ?_, by simp⟩ fun h => nomatch h.1
    rw [hsame.sent, List.append_nil]
  · have hrestored := (release.call_steady ctx router) c u c' hrun
    have hneeded : c.restored.directory.Needed b.host router := by
      obtain ⟨p, hp, hwants⟩ := hneeded
      exact ⟨p, hp, hwants.serviced, hwants.host, hwants.attaches⟩
    have hstrands : release.Strands c.restored.directory ctx b.host router ↔
        release.Strands c.directory ctx b.host router :=
      ⟨fun h => ⟨h.reaches, h.tenant, h.hidden⟩, fun h => ⟨h.reaches, h.tenant, h.hidden⟩⟩
    have hkept := node_kept_serving (c := c.restored) hd hsnat hbound hneeded hsingle ctx release
    rw [hrestored, hstrands] at hkept
    rw [and_iff_right rfl]
    exact hkept

end Controller

/-! ## A port of another tenant -/

namespace SoleHost

/-- The serviced port, as a port of another tenant. -/
def guest : Port := { port with tenant := "t2" }

/-- The agent translates for the router, which only the guest needs on its host. -/
def hosting : Controller :=
  ((Call.bindRouter agent router).action.runOn ⟨directory.putPort guest, ∅, .ofSeed 0, []⟩).2

/-- The tenant of the router. -/
def owner : Context := ⟨some "t1", false⟩

def translation : SnatBinding := ⟨"r1", "a1", "h1", none⟩

theorem hosting_directory : hosting.directory = directory.putPort guest := rfl

theorem hosting_serving : hosting.directory.restored.Serving := by
  rw [hosting_directory]
  exact (directory_serving.put_port guest).restored

theorem hosting_ports : hosting.directory.ports.values = [interface, guest] := rfl

theorem hosting_bound : hosting.store.snatOf? "r1" = .ok (some translation) ∧
    hosting.store.hasHost "r1" "a1" = .ok true := by
  have hstore : hosting.store = (∅ : Store).withSnat router agent := rfl
  have hsound := Store.Sound.empty.with_snat router agent
  rw [hstore, hsound.snat_of, hsound.has_host, Store.snat_row_with_snat, Store.is_bound_with_snat]
  exact ⟨rfl, rfl⟩

theorem hosting_wants : hosting.directory.Wants guest "h1" "r1" := by
  have hinterface : interface ∈ hosting.directory.ports.values := by simp [hosting_ports]
  exact ⟨rfl, rfl, interface, hinterface, ⟨"s1", "10.0.0.5"⟩, List.mem_singleton_self _, rfl, rfl,
    List.mem_singleton_self _⟩

end SoleHost

namespace Controller

open SoleHost in
theorem node_kept_iff_hosting :
    hosting.directory.restored.Serving ∧ hosting.store.snatOf? "r1" = .ok (some translation) ∧
      hosting.store.hasHost "r1" "a1" = .ok true ∧ hosting.directory.Needed "h1" "r1" ∧
      (∀ q ∈ hosting.directory.ports.values, q.owner = DeviceOwner.routerInterface →
        q.device = "r1" → ∃ ip, q.fixedIps = [ip]) ∧
      (hosting.KeepsNode (((Release.unscheduled []).call owner "r1").action.runOn hosting).2 "r1"
          translation ↔
        ¬((((Release.unscheduled []).call owner "r1").action.runOn hosting).1 = .ok () ∧
          ((Release.unscheduled []).Strands hosting.directory owner "h1" "r1" ∨
            (Release.unscheduled []).Unbinds hosting.directory "r1" "a1"))) := by
  obtain ⟨hsnat, hbound⟩ := hosting_bound
  have hneeded : hosting.directory.Needed "h1" "r1" :=
    ⟨guest, by simp [hosting_ports], hosting_wants⟩
  have hsingle : ∀ q ∈ hosting.directory.ports.values, q.owner = DeviceOwner.routerInterface →
      q.device = "r1" → ∃ ip, q.fixedIps = [ip] := by
    simp [hosting_ports, interface, guest, port]
  exact ⟨hosting_serving, hsnat, hbound, hneeded, hsingle,
    node_kept_iff hosting_serving hsnat hbound hneeded hsingle owner (.unscheduled [])⟩

open SoleHost in
/-- The tenant of a router takes it from the host on which a port of another tenant needs it. -/
theorem guest_stranded :
    hosting.store.snatOf? "r1" = .ok (some translation) ∧
      hosting.store.hasHost "r1" "a1" = .ok true ∧
      guest ∈ hosting.directory.ports.values ∧ hosting.directory.Wants guest "h1" "r1" ∧
      (((Release.unscheduled []).call owner "r1").action.runOn hosting).2.store.hasHost "r1"
        "a1" = .ok false ∧
      (((Release.unscheduled []).call owner "r1").action.runOn hosting).2.sent =
        hosting.sent ++ [.routerRemoved "r1" "h1"] := by
  obtain ⟨hsnat, hbound⟩ := hosting_bound
  have hstore : (((Release.unscheduled []).call owner "r1").action.runOn hosting).2.store = ∅ := by
    decide +kernel
  refine ⟨hsnat, hbound, by simp [hosting_ports], hosting_wants, ?_, by decide +kernel⟩
  rw [hstore]
  rfl

end Controller

end RouterBinding
