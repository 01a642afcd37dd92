import RouterBinding.Proofs.Snat.Reconciling

/-!
# Reconciling twice

However a reconciliation ends well, the router is `AtRest` afterwards, and a router at rest is left
alone by reconciliation, so that doing it twice is doing it once. `reconcile_tells` adds what is
told: nothing where nothing is done, and otherwise one notice to the host of the row that was
inserted or deleted.
-/

namespace RouterBinding

namespace Controller

open RouterBinding.Action

variable {c c' : Controller} {ctx : Context} {router : Router}

namespace Reconciles

/-- However a reconciliation went, nothing is left to be done. -/
theorem at_rest (h : c.Reconciles ctx router c') : c'.AtRest router := by
  cases h with
  | idle hrest => exact hrest
  | bound _ hgateway => exact .bound hgateway (Store.snat_of_with_snat c.store router _)
  | kept _ hgateway => exact .released hgateway (Store.snat_of_drop_snat c.store router.id)
  | removed _ hgateway => exact .released hgateway (Store.snat_of_drop_snat c.store router.id)

theorem directory_eq (h : c.Reconciles ctx router c') : c'.directory = c.directory := by
  cases h <;> rfl

/-- Only the row of the router can change. -/
theorem snat_elsewhere (h : c.Reconciles ctx router c') {id : String} (hother : id ≠ router.id) :
    c'.store.snat.get? id = c.store.snat.get? id := by
  cases h with
  | idle => rfl
  | bound =>
      rw [Store.withSnat, Store.snat_with_host]
      exact Table.get_insert_of_ne _ _ hother.symm
  | kept => exact Table.get_erase_of_ne _ hother.symm
  | removed => exact Table.get_erase_of_ne _ hother.symm

/-- Only host bindings of the router can change. -/
theorem hosts_elsewhere (h : c.Reconciles ctx router c') {key : String}
    (hother : ∀ agent, key ≠ HostBinding.key ⟨router.id, agent⟩) :
    c'.store.hosts.get? key = c.store.hosts.get? key := by
  cases h with
  | idle => rfl
  | bound => exact Store.get_hosts_with_host (hother _)
  | kept => rfl
  | removed => exact Table.get_erase_of_ne _ (hother _).symm

end Reconciles

/-- What a reconciliation of a router tells, after which the store is `s`: nothing if it leaves the
store alone, and otherwise the host of the row that it inserted or deleted. That the router is gone
is told where the host binding went with the row. -/
inductive Notified (c : Controller) (ctx : Context) (router : String) (s : Store) :
    List Notice → Prop where
  | nothing (hsame : s = c.store) : Notified c ctx router s []
  | inserted {b : SnatBinding} (hrouter : b.router = router)
      (hfree : c.store.snat.get? router = none)
      (hrow : s.snat.get? router = some b.toText) :
      Notified c ctx router s [.routersUpdatedOnHost [router] b.host]
  | kept {b : SnatBinding} (hrow : c.store.snatOf? router = .ok (some b))
      (hgone : s.snat.get? router = none)
      (hrelease : (releaseSnatNode ctx router none).runOn c =
        (.ok (some ⟨b, .kept b.host⟩), { c with store := s })) :
      Notified c ctx router s [.routersUpdatedOnHost [router] b.host]
  | removed {b : SnatBinding} (hrow : c.store.snatOf? router = .ok (some b))
      (hgone : s.snat.get? router = none)
      (hrelease : (releaseSnatNode ctx router none).runOn c =
        (.ok (some ⟨b, .removed b.host⟩), { c with store := s })) :
      Notified c ctx router s [.routerRemoved router b.host]

theorem Reconciles.notified (h : c.Reconciles ctx router c') :
    ∃ told, c'.sent = c.sent ++ told ∧ c.Notified ctx router.id c'.store told := by
  have hgone : ((c.store.dropSnat router.id).snat.get? router.id) = none :=
    Table.get_erase_self _ _
  cases h with
  | idle => exact ⟨[], (List.append_nil _).symm, .nothing rfl⟩
  | @bound a _ _ _ hfree =>
      exact ⟨_, rfl, .inserted (b := ⟨router.id, a.id, a.host, router.gatewayPort⟩) rfl hfree
        (Store.get_snat_with_snat c.store router a)⟩
  | kept _ _ hrow hneeded =>
      refine ⟨_, rfl, .kept hrow hgone ?_⟩
      rw [run_on_release_snat_node_eq, Store.snat_scoped_none, hrow]
      simp only [hneeded]
  | removed _ _ hrow hneeded =>
      refine ⟨_, rfl, .removed hrow hgone ?_⟩
      rw [run_on_release_snat_node_eq, Store.snat_scoped_none, hrow]
      simp only [hneeded]

/-- Something is told exactly if the row of the router is another one than before. -/
theorem Notified.nil_iff {s : Store} {id : String} {told : List Notice}
    (h : c.Notified ctx id s told) : told = [] ↔ s.snat.get? id = c.store.snat.get? id := by
  cases h with
  | nothing hsame => simp [hsame]
  | inserted _ hfree hrow => simp [hfree, hrow]
  | kept hrow hgone => simpa [hgone] using (Store.get_of_snat_of_some hrow).symm
  | removed hrow hgone => simpa [hgone] using (Store.get_of_snat_of_some hrow).symm

/-- A reconciliation that ends well sends one notice if it inserted or deleted the row of the router
and none otherwise, to the host that the row names: that the router is gone if its host binding was
removed with the row, and that it changed in all other cases. It touches no row of another router. A
second one right after it, whoever asks for it, ends well, changes nothing and sends nothing. -/
theorem reconcile_tells {id : String} (hfiled : c.directory.routers.Filed Router.id)
    (hrun : (reconcile ctx id).runOn c = (.ok (), c')) :
    (∃ told, c'.sent = c.sent ++ told ∧ c.Notified ctx id c'.store told ∧
      (told = [] ↔ c'.store.snat.get? id = c.store.snat.get? id)) ∧
    (∀ other, other ≠ id → c'.store.snat.get? other = c.store.snat.get? other) ∧
    (∀ key, (∀ agent, key ≠ HostBinding.key ⟨id, agent⟩) →
      c'.store.hosts.get? key = c.store.hosts.get? key) ∧
    ∀ ctx', (reconcile ctx' id).runOn c' = (.ok (), c') := by
  obtain ⟨router, c₁, hanswered, -⟩ := ok_of_bind hrun
  obtain ⟨-, hknown⟩ := known_router_ok hanswered
  obtain rfl : router.id = id := hfiled _ _ hknown
  obtain ⟨hfound, hreconciles⟩ := reconcile_cases hknown hrun
  obtain ⟨told, hsent, hnotified⟩ := hreconciles.notified
  refine ⟨⟨told, hsent, hnotified, hnotified.nil_iff⟩,
    fun other hother => hreconciles.snat_elsewhere hother,
    fun key hother => hreconciles.hosts_elsewhere hother, fun ctx' => ?_⟩
  exact reconcile_at_rest (hreconciles.directory_eq ▸ hfound) hreconciles.at_rest

end Controller

namespace Controller

open SoleHost in
theorem reconcile_tells_sole_host :
    start.controller.directory.routers.Filed Router.id ∧
      ∃ c, (reconcile .administrator router.id).runOn start.controller = (.ok (), c) ∧
        (∃ told, c.sent = start.controller.sent ++ told ∧
          start.controller.Notified .administrator router.id c.store told ∧
          (told = [] ↔
            c.store.snat.get? router.id = start.controller.store.snat.get? router.id)) ∧
        (∀ other, other ≠ router.id →
          c.store.snat.get? other = start.controller.store.snat.get? other) ∧
        (∀ key, (∀ agent, key ≠ HostBinding.key ⟨router.id, agent⟩) →
          c.store.hosts.get? key = start.controller.store.hosts.get? key) ∧
        ∀ ctx, (reconcile ctx router.id).runOn c = (.ok (), c) := by
  obtain ⟨c, hrun, -⟩ := first_reconciled
  exact ⟨directory_serving.routers, c, hrun, reconcile_tells directory_serving.routers hrun⟩

end Controller

end RouterBinding
