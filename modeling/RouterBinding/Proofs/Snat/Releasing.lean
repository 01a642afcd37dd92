import RouterBinding.Proofs.Snat.Visibility

/-!
# Releasing address translation as an administrator

Releasing the address translation of a router drops its SNAT binding and, as part of the same unit,
the host binding of the agent that translated, unless the router is held on the host of that agent.
An administrator sees all ports, so what holds it there is a matter of the ports alone (`Held`).
`release_snat_node_iff` says so over stores of any content and over ports filed in any way: the
bindings need not be those of the router, and the host binding need not be there.
-/

namespace RouterBinding

namespace Directory

/-- A serviced port on a host lies on the subnet of the first address of a port of a router. -/
def Held (d : Directory) (host router : String) : Prop :=
  ∃ p ∈ d.ports.values, p.isServiced ∧ p.host = some host ∧
    ∃ q ∈ d.ports.values, q.device = router ∧ ∃ ip ∈ q.fixedIps.head?, ip.subnet ∈ p.subnets

variable {d : Directory} {ctx : Context} {host router : String}

/-- An administrator finds a router needed exactly if it is held. -/
theorem needs_iff_held_on (hadmin : ctx.admin = true) :
    d.needs ctx host router none ↔ d.Held host router := by
  simp only [needs_iff_of_admin hadmin, ne_eq, reduceCtorEq, not_false_eq_true, true_and, Held]

/-- What holds a router is not asked for while the ports cannot be listed. -/
theorem needs_router_out (hout : Service.ports ∈ d.outages) (except? : Option String) :
    d.needsRouter ctx host router except? = .error (.unavailable .ports) := by
  have hports : d.portsWhere ctx { devices := [router] } = .error (.unavailable .ports) :=
    if_pos hout
  rw [needsRouter, subnetsOfRouter, hports]
  rfl

end Directory

namespace Store

/-- The row of a router as it is looked up, where it is there and decodes. -/
theorem snat_of_of_text {s : Store} {router text : String} {b : SnatBinding}
    (hget : s.snat.get? router = some text) (hread : SnatBinding.ofText? text = some b) :
    s.snatOf? router = .ok (some b) := by
  rw [snatOf?, row?, hget]
  simp only [decoded, hread]
  rfl

end Store

namespace Controller

open RouterBinding.Action

/-- The SNAT binding of a router is gone from a store, with or without the host binding of its
agent, and there is no other change. -/
structure Released (d : Directory) (s : Store) (router : String) (b : SnatBinding)
    (node : NodeOutcome) (s' : Store) : Prop where
  gone : s'.snat.get? router = none
  snat_elsewhere : ∀ id, id ≠ router → s'.snat.get? id = s.snat.get? id
  /-- The host binding is dropped exactly if nothing holds the router on the host. -/
  removed : node = .removed b.host ∧ s'.hosts.get? (HostBinding.key ⟨router, b.agent⟩) = none ↔
    ¬d.Held b.host router
  /-- It is left, whether or not it is there, exactly if something does. -/
  kept : node = .kept b.host ∧ s'.hosts = s.hosts ↔ d.Held b.host router
  hosts_elsewhere : ∀ key, key ≠ HostBinding.key ⟨router, b.agent⟩ →
    s'.hosts.get? key = s.hosts.get? key

namespace Released

variable {d : Directory} {s : Store} {router : String} {b : SnatBinding}

theorem of_held (hheld : d.Held b.host router) :
    Released d s router b (.kept b.host) (s.dropSnat router) where
  gone := Table.get_erase_self _ _
  snat_elsewhere _ hid := Table.get_erase_of_ne _ hid.symm
  removed := iff_of_false (fun h => nomatch h.1) (not_not_intro hheld)
  kept := iff_of_true ⟨rfl, rfl⟩ hheld
  hosts_elsewhere _ _ := rfl

theorem of_not_held (hheld : ¬d.Held b.host router) :
    Released d s router b (.removed b.host) ((s.dropSnat router).dropHost ⟨router, b.agent⟩) where
  gone := Table.get_erase_self _ _
  snat_elsewhere _ hid := Table.get_erase_of_ne _ hid.symm
  removed := iff_of_true ⟨rfl, Table.get_erase_self _ _⟩ hheld
  kept := iff_of_false (fun h => nomatch h.1) hheld
  hosts_elsewhere _ hkey := Table.get_erase_of_ne _ hkey.symm

end Released

variable {c : Controller} {ctx : Context} {router : String}

theorem release_snat_node_absent (hget : c.store.snat.get? router = none) :
    (releaseSnatNode ctx router none).runOn c = (.ok none, c) := by
  have hrow : c.store.snatOf? router = .ok none := by
    rw [Store.snatOf?, Store.row?, hget]
  rw [run_on_release_snat_node_eq, Store.snat_scoped_none, hrow]

/-- A release by an administrator drops the host binding exactly if nothing holds the router. -/
theorem release_snat_node_released (hadmin : ctx.admin = true)
    (hup : Service.ports ∉ c.directory.outages) {b : SnatBinding}
    (hrow : c.store.snatOf? router = .ok (some b)) :
    ∃ node s, (releaseSnatNode ctx router none).runOn c =
        (.ok (some ⟨b, node⟩), { c with store := s }) ∧
      Released c.directory c.store router b node s := by
  have hneeds : c.directory.needs ctx b.host router none ↔ c.directory.Held b.host router :=
    Directory.needs_iff_held_on hadmin
  rw [run_on_release_snat_node_eq, Store.snat_scoped_none, hrow]
  simp only
  rw [Directory.needs_router_up hup]
  cases hneeded : c.directory.needs ctx b.host router none with
  | true => exact ⟨_, _, rfl, .of_held (hneeds.1 hneeded)⟩
  | false =>
      have hfree : ¬c.directory.Held b.host router := fun hheld => by
        rw [hneeds.2 hheld] at hneeded
        cases hneeded
      exact ⟨_, _, rfl, .of_not_held hfree⟩

/-- A release by an administrator does nothing to a router without SNAT binding. Otherwise it
answers the binding that the row holds, the row is gone, and the host binding of the agent goes with
it exactly if no serviced port on the host lies on the subnet of the first address of a port of the
router; all other rows stay. Where the ports cannot be listed the release fails and nothing
changes. -/
theorem release_snat_node_iff (hadmin : ctx.admin = true) (router : String) (c : Controller) :
    (c.store.snat.get? router = none →
      (releaseSnatNode ctx router none).runOn c = (.ok none, c)) ∧
    ∀ text b, c.store.snat.get? router = some text → SnatBinding.ofText? text = some b →
      (Service.ports ∉ c.directory.outages →
        ∃ node s, (releaseSnatNode ctx router none).runOn c =
            (.ok (some ⟨b, node⟩), { c with store := s }) ∧
          Released c.directory c.store router b node s) ∧
      (Service.ports ∈ c.directory.outages →
        (releaseSnatNode ctx router none).runOn c =
          (.error (ofFault (.unavailable .ports)), c)) := by
  refine ⟨release_snat_node_absent, fun text b hget hread => ?_⟩
  have hrow := Store.snat_of_of_text hget hread
  refine ⟨fun hup => release_snat_node_released hadmin hup hrow, fun hout => ?_⟩
  rw [run_on_release_snat_node_eq, Store.snat_scoped_none, hrow]
  simp only
  rw [Directory.needs_router_out hout]

open SoleHost in
theorem release_snat_node_iff_hosting :
    Context.administrator.admin = true ∧
      ∃ text node s, hosting.store.snat.get? "r1" = some text ∧
        SnatBinding.ofText? text = some translation ∧ Service.ports ∉ hosting.directory.outages ∧
        (releaseSnatNode .administrator "r1" none).runOn hosting =
          (.ok (some ⟨translation, node⟩), { hosting with store := s }) ∧
        Released hosting.directory hosting.store "r1" translation node s := by
  have hadmin : Context.administrator.admin = true := rfl
  have hup : Service.ports ∉ hosting.directory.outages := List.not_mem_nil
  have hget : hosting.store.snat.get? "r1" = some translation.toText :=
    Store.get_snat_with_snat ∅ router agent
  have hread := SnatBinding.of_text_to_text translation
  obtain ⟨node, s, hrun, hreleased⟩ :=
    ((release_snat_node_iff hadmin "r1" hosting).2 _ _ hget hread).1 hup
  exact ⟨hadmin, _, node, s, hget, hread, hup, hrun, hreleased⟩

end Controller

end RouterBinding
