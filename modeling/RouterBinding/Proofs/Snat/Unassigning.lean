import RouterBinding.Proofs.Snat.Idempotence

/-!
# Removing a router from an agent

A removal looks at the SNAT binding only of a router that has a gateway now (`GivesUp`), so it ends
what the agent translates for such a router alone: `remove_router_takes` says so, over stores of any
content and whichever services are out. The removal of a router whose gateway was taken away since
leaves the row as it is, and drops the host binding beside it (`stale_translation_kept`).
-/

namespace RouterBinding

namespace Directory

/-- A question whether a router is needed that is answered is answered by what the one who asks can
see. -/
theorem answered_iff_shows {d : Directory} (hd : d.restored.Serving) {ctx : Context}
    {host router : String} {needed : Bool}
    (h : d.needsRouter ctx host router none = .ok needed) :
    needed = true ↔ d.Shows ctx host router := by
  have hanswer : d.restored.needsRouter ctx host router none = .ok needed :=
    needs_router_steady ctx host router none d needed h
  rw [hd.needs_router] at hanswer
  rw [← Except.ok.inj hanswer]
  exact needs_iff_shows

end Directory

namespace Controller

open RouterBinding.Action

variable {c c' : Controller} {ctx : Context} {agent router : String}

/-- A router gives up one binding at most. -/
theorem GivesUp.unique {b b' : SnatBinding} (h : c.GivesUp agent router b)
    (h' : c.GivesUp agent router b') : b = b' := by
  simpa using h.row.symm.trans h'.row

namespace Removes

theorem found (h : c.Removes ctx agent router (.ok ()) c') :
    ∃ r, c.directory.router? router = .ok (some r) := by
  cases h with
  | kept hgives | released hgives =>
      obtain ⟨r, hfound, -⟩ := hgives.translated
      exact ⟨r, hfound⟩
  | unbound hfound => exact ⟨_, hfound⟩

/-- The agent no longer translates for a distributed router that has a gateway. -/
theorem not_translating (h : c.Removes ctx agent router (.ok ()) c') {r : Router}
    (hfound : c.directory.router? router = .ok (some r)) (hdistributed : r.distributed)
    (hgateway : r.hasGateway) {b : SnatBinding}
    (hrow : c'.store.snatOf? router = .ok (some b)) : b.agent ≠ agent := by
  have hgone : (c.store.dropSnat router).snatOf? router = .ok none :=
    Store.snat_of_drop_snat c.store router
  cases h with
  | kept | released => cases hgone.symm.trans hrow
  | unbound _ hgives =>
      intro hnames
      exact hgives b ⟨⟨r, hfound, hdistributed, hgateway⟩, hrow, hnames⟩

theorem snat_kept (h : c.Removes ctx agent router (.ok ()) c')
    (hgives : ∀ b, ¬c.GivesUp agent router b) : c'.store.snat = c.store.snat := by
  cases h with
  | kept hgives' | released hgives' => exact absurd hgives' (hgives _)
  | unbound => rfl

/-- The agent does not translate for the router any more exactly if it did not before, or if the
router is distributed and has a gateway now. -/
theorem not_translating_iff (h : c.Removes ctx agent router (.ok ()) c') {r : Router}
    (hfound : c.directory.router? router = .ok (some r)) :
    (∀ b, c'.store.snatOf? router = .ok (some b) → b.agent ≠ agent) ↔
      (r.distributed ∧ r.hasGateway) ∨
        ∀ b, c.store.snatOf? router = .ok (some b) → b.agent ≠ agent := by
  by_cases hgives : ∃ b, c.GivesUp agent router b
  · -- the router is distributed and has a gateway, since it gives up a binding
    obtain ⟨b, hgives⟩ := hgives
    obtain ⟨r', hfound', htranslated⟩ := hgives.translated
    cases hfound.symm.trans hfound'
    refine iff_of_true (fun b hrow => ?_) (.inl htranslated)
    exact h.not_translating hfound htranslated.1 htranslated.2 hrow
  · have hgives := not_exists.1 hgives
    have hsame : c'.store.snatOf? router = c.store.snatOf? router := by
      rw [Store.snatOf?, Store.snatOf?, h.snat_kept hgives]
    rw [hsame]
    refine ⟨.inr, fun hor b hrow hnames => ?_⟩
    rcases hor with ⟨hdistributed, hgateway⟩ | hother
    · exact hgives b ⟨⟨r, hfound, hdistributed, hgateway⟩, hrow, hnames⟩
    · exact hother b hrow hnames

/-- The host binding goes, unless a SNAT binding was given up and ports need the router there. -/
theorem host_gone (h : c.Removes ctx agent router (.ok ()) c')
    (hd : c.directory.restored.Serving)
    (hneedless : ¬∃ b, c.GivesUp agent router b ∧ c.directory.Shows ctx b.host router) :
    c'.store.hosts.get? (HostBinding.key ⟨router, agent⟩) = none := by
  cases h with
  | @kept b hgives hneeded =>
      exact absurd ⟨b, hgives, (Directory.answered_iff_shows hd hneeded).1 rfl⟩ hneedless
  | released | unbound => exact Table.get_erase_self _ _

theorem host_kept (h : c.Removes ctx agent router (.ok ()) c')
    (hd : c.directory.restored.Serving) {b : SnatBinding} (hgives : c.GivesUp agent router b)
    (hshows : c.directory.Shows ctx b.host router) :
    c'.store.hosts = c.store.hosts ∧ c'.sent = c.sent ++ [.routersUpdated [router] false] := by
  cases h with
  | kept => exact ⟨rfl, rfl⟩
  | released hgives' hneeded =>
      obtain rfl := hgives.unique hgives'
      exact Bool.noConfusion ((Directory.answered_iff_shows hd hneeded).2 hshows)
  | unbound _ hnone => exact absurd hgives (hnone b)

end Removes

/-- Once a router is removed from an agent, the agent has no SNAT binding of it exactly if it had
none before, or if the router is distributed and has a gateway now; where nothing was given up the
SNAT bindings are as they were. The host binding is gone too, unless a SNAT binding was given up and
whoever made the request sees a serviced port that needs the router on its host: then it is kept,
and the change is told. No row of another router or another agent changes. -/
theorem remove_router_takes (hd : c.directory.restored.Serving)
    (hrun : (removeRouter ctx agent router).runOn c = (.ok (), c')) :
    ∃ r, c.directory.routers.get? router = some r ∧
      ((∀ b, c'.store.snatOf? router = .ok (some b) → b.agent ≠ agent) ↔
        (r.distributed ∧ r.hasGateway) ∨
          ∀ b, c.store.snatOf? router = .ok (some b) → b.agent ≠ agent) ∧
      ((∀ b, ¬c.GivesUp agent router b) → c'.store.snat = c.store.snat) ∧
      ((¬∃ b, c.GivesUp agent router b ∧ c.directory.Shows ctx b.host router) →
        c'.store.hosts.get? (HostBinding.key ⟨router, agent⟩) = none) ∧
      ((∃ b, c.GivesUp agent router b ∧ c.directory.Shows ctx b.host router) →
        c'.store.hosts = c.store.hosts ∧
          c'.sent = c.sent ++ [.routersUpdated [router] false]) ∧
      (∀ id, id ≠ router → c'.store.snat.get? id = c.store.snat.get? id) ∧
      ∀ key, key ≠ HostBinding.key ⟨router, agent⟩ →
        c'.store.hosts.get? key = c.store.hosts.get? key := by
  have hremoves := remove_router_removes ctx agent router c
  rw [hrun] at hremoves
  obtain ⟨r, hfound⟩ := hremoves.found
  refine ⟨r, (Directory.of_ask_ok hfound).symm, hremoves.not_translating_iff hfound,
    hremoves.snat_kept, hremoves.host_gone hd, ?_, fun id => hremoves.snat_elsewhere,
    fun key => hremoves.hosts_elsewhere⟩
  rintro ⟨b, hgives, hshows⟩
  exact hremoves.host_kept hd hgives hshows

end Controller

/-! ## A router that loses its gateway -/

namespace SoleHost

/-- The router once its gateway is taken away. -/
def ungated : Router := { router with gateway := none }

/-- The agent translates for the router, which has no gateway any more. -/
def stale : Exchange := bound.changeDirectory (·.putRouter ungated)

theorem stale_reachable : Exchange.Reachable .anything Directory.Serving stale :=
  .step (bound_reachable trivial directory_serving)
    (.change (directory.putRouter ungated) bound.controller.draws
      (directory_serving.put_router ungated))

end SoleHost

namespace Controller

open SoleHost in
theorem remove_router_takes_sole_host :
    bound.controller.directory.restored.Serving ∧
      ∃ c', (removeRouter .administrator agent.id router.id).runOn bound.controller =
          (.ok (), c') ∧
        ∃ r, bound.controller.directory.routers.get? router.id = some r ∧
          ((∀ b, c'.store.snatOf? router.id = .ok (some b) → b.agent ≠ agent.id) ↔
            (r.distributed ∧ r.hasGateway) ∨
              ∀ b, bound.controller.store.snatOf? router.id = .ok (some b) →
                b.agent ≠ agent.id) ∧
          ((∀ b, ¬bound.controller.GivesUp agent.id router.id b) →
            c'.store.snat = bound.controller.store.snat) ∧
          ((¬∃ b, bound.controller.GivesUp agent.id router.id b ∧
              bound.controller.directory.Shows .administrator b.host router.id) →
            c'.store.hosts.get? (HostBinding.key ⟨router.id, agent.id⟩) = none) ∧
          ((∃ b, bound.controller.GivesUp agent.id router.id b ∧
              bound.controller.directory.Shows .administrator b.host router.id) →
            c'.store.hosts = bound.controller.store.hosts ∧
              c'.sent = bound.controller.sent ++ [.routersUpdated [router.id] false]) ∧
          (∀ id, id ≠ router.id →
            c'.store.snat.get? id = bound.controller.store.snat.get? id) ∧
          ∀ key, key ≠ HostBinding.key ⟨router.id, agent.id⟩ →
            c'.store.hosts.get? key = bound.controller.store.hosts.get? key := by
  obtain ⟨-, hserving, hsound⟩ := (bound_reachable (w := .anything) trivial
    directory_serving).serving
  have hknows : bound.controller.directory.knows router.id = true := by decide +kernel
  obtain ⟨sent, hrun⟩ := remove_router_serving hserving hsound .administrator agent.id hknows
  exact ⟨hserving.restored, _, hrun, remove_router_takes hserving.restored hrun⟩

open SoleHost in
/-- After its gateway was taken away a router is removed from the agent that translates for it. The
SNAT binding names the agent still, and the host binding is gone. -/
theorem stale_translation_kept :
    ∃ c', Exchange.Reachable .anything Directory.Serving stale ∧
      (removeRouter .administrator agent.id router.id).runOn stale.controller = (.ok (), c') ∧
      c'.store.snatOf? router.id = .ok (some translation) ∧ translation.agent = agent.id ∧
      c'.store.hasHost router.id agent.id = .ok false := by
  obtain ⟨-, hserving, hsound⟩ := stale_reachable.serving
  have hfound : stale.controller.directory.routers.get? router.id = some ungated :=
    Table.get_insert_self _ _ _
  obtain ⟨sent, hrun⟩ := remove_router_serving hserving hsound .administrator agent.id
    (Directory.knows_of_found hfound)
  -- without a gateway no SNAT binding is given up, so only the host binding goes
  rw [Store.removal, Store.given_up_no_gateway hfound rfl] at hrun
  refine ⟨_, stale_reachable, hrun, Store.snat_of_with_snat ∅ router agent, rfl, ?_⟩
  simp [Store.has_host_drop_host]

end Controller

end RouterBinding
