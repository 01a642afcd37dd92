import RouterBinding.Proofs.Snat.Scheduling
import RouterBinding.Proofs.Snat.Visibility

/-!
# What reconciliation leaves

Reconciliation looks at two things, whether a distributed router has a gateway and whether a row is
stored for it, and changes something only where the two disagree. `Controller.Reconciles` has one
case for each way in which it ends well, over stores of any content and whatever became of the
router since the row was written, and `reconcile_leaves` says what the row is like afterwards. A row
that is there already is not compared with the router: `stale_row_kept` has one that names another
gateway port, and one of a router that is no longer distributed.
-/

namespace RouterBinding

namespace Store

variable {s : Store} {router : String}

/-- A lookup that finds nothing finds no row at all, not even one that does not decode. -/
theorem get_of_snat_of_none (h : s.snatOf? router = .ok none) : s.snat.get? router = none := by
  unfold snatOf? row? at h
  cases hget : s.snat.get? router with
  | none => rfl
  | some text =>
      rw [hget] at h
      simp only at h
      cases hrow : decoded SnatBinding.ofText? text <;> rw [hrow] at h <;> cases h

/-- A row that is found is stored. -/
theorem get_of_snat_of_some {b : SnatBinding} (h : s.snatOf? router = .ok (some b)) :
    s.snat.get? router ≠ none := by
  intro hnone
  rw [snatOf?, row?, hnone] at h
  cases h

theorem snat_of_drop_snat (s : Store) (router : String) :
    (s.dropSnat router).snatOf? router = .ok none := by
  rw [snatOf?, row?, dropSnat, Table.get_erase_self]

end Store

/-- The row says what its router is like now: the router is distributed, it has a gateway, and the
row names the port of that. -/
def Router.Agrees (router : Router) (text : String) : Prop :=
  router.distributed ∧ router.hasGateway ∧ ∃ b, SnatBinding.ofText? text = some b ∧
    b.router = router.id ∧ b.gatewayPort = router.gatewayPort

namespace Controller

open RouterBinding.Action

variable {c c' : Controller} {ctx : Context} {router : Router}

/-- Nothing is to be done for the address translation of a router. -/
inductive AtRest (c : Controller) (router : Router) : Prop where
  | centralized (hcentralized : router.distributed = false)
  | bound (hgateway : router.hasGateway) {b : SnatBinding}
      (hrow : c.store.snatOf? router.id = .ok (some b))
  | released (hgateway : router.hasGateway = false)
      (hfree : c.store.snatOf? router.id = .ok none)
  /-- No agent is there to take the router. -/
  | unoffered (hgateway : router.hasGateway) (hfree : c.store.snatOf? router.id = .ok none)
      (hup : Service.agents ∉ c.directory.outages) (hnone : ¬∃ a, c.directory.Offers router a)

/-- How a reconciliation that ends well goes, and the controller it leaves. -/
inductive Reconciles (c : Controller) (ctx : Context) (router : Router) : Controller → Prop where
  | idle (hrest : c.AtRest router) : Reconciles c ctx router c
  | bound {a : Agent} {draws : Draws} (hdistributed : router.distributed)
      (hgateway : router.hasGateway) (hfree : c.store.snat.get? router.id = none) :
      Reconciles c ctx router
        { c with
          store := c.store.withSnat router a
          draws := draws
          sent := c.sent ++ [.routersUpdatedOnHost [router.id] a.host] }
  | kept {b : SnatBinding} (hdistributed : router.distributed)
      (hgateway : router.hasGateway = false)
      (hrow : c.store.snatOf? router.id = .ok (some b))
      (hneeded : c.directory.needsRouter ctx b.host router.id none = .ok true) :
      Reconciles c ctx router
        { c with
          store := c.store.dropSnat router.id
          sent := c.sent ++ [.routersUpdatedOnHost [router.id] b.host] }
  | removed {b : SnatBinding} (hdistributed : router.distributed)
      (hgateway : router.hasGateway = false)
      (hrow : c.store.snatOf? router.id = .ok (some b))
      (hneeded : c.directory.needsRouter ctx b.host router.id none = .ok false) :
      Reconciles c ctx router
        { c with
          store := (c.store.dropSnat router.id).dropHost ⟨router.id, b.agent⟩
          sent := c.sent ++ [.routerRemoved router.id b.host] }

/-- Where no agent is offered for a router, scheduling it changes nothing, and draws no word. -/
theorem schedule_snat_unoffered (hup : Service.agents ∉ c.directory.outages)
    (hgateway : router.hasGateway) (hnone : ¬∃ a, c.directory.Offers router a) :
    ∃ outcome, (scheduleSnat router).runOn c = (.ok outcome, c) ∧ ∀ a, outcome ≠ .bound a := by
  unfold scheduleSnat
  simp only [hgateway, Bool.not_true, Bool.false_eq_true, if_false]
  rw [run_on_bind, run_on_ask, Directory.active_agents_ok hup]
  simp only [map_error_ok]
  cases (c.directory.agents.values.filter (·.isActive)).isEmpty with
  | true => exact ⟨.noActiveAgents, rfl, by simp⟩
  | false =>
      have hempty : candidates router (c.directory.agents.values.filter (·.isActive)) = [] :=
        List.eq_nil_iff_forall_not_mem.2 fun a ha =>
          hnone ⟨a, (Directory.mem_candidates_iff hgateway).1 ha⟩
      rw [hempty]
      exact ⟨.noCandidates, rfl, by simp⟩

/-- Reconciliation leaves a router at rest alone, whoever asks for it. -/
theorem reconcile_at_rest (hfound : c.directory.router? router.id = .ok (some router))
    (hrest : c.AtRest router) : (reconcile ctx router.id).runOn c = (.ok (), c) := by
  rw [reconcile, run_on_bind, known_router_found hfound]
  simp only
  cases hdistributed : router.distributed with
  | false => rfl
  | true =>
      simp only [if_true]
      rw [run_on_bind, run_on_consult]
      cases hrest with
      | centralized hcentralized =>
          rw [hdistributed] at hcentralized
          cases hcentralized
      | bound hgateway hrow =>
          rw [hrow, hgateway]
          rfl
      | released hgateway hfree =>
          rw [hfree, hgateway]
          rfl
      | unoffered hgateway hfree hup hnone =>
          obtain ⟨outcome, hrun, hunbound⟩ := schedule_snat_unoffered hup hgateway hnone
          rw [hfree, hgateway]
          simp only [map_error_ok]
          rw [reconcileGateway, run_on_bind, hrun]
          cases outcome with
          | bound a => exact absurd rfl (hunbound a)
          | noGateway | noActiveAgents | noCandidates | alreadyBound => rfl

/-- A router with a gateway is bound where an agent is offered, and otherwise left alone. -/
theorem reconcile_gateway_cases (hdistributed : router.distributed)
    (hgateway : router.hasGateway)
    (hfree : c.store.snatOf? router.id = .ok none)
    (hrun : (reconcileGateway router).runOn c = (.ok (), c')) : c.Reconciles ctx router c' := by
  have hget := Store.get_of_snat_of_none hfree
  obtain ⟨outcome, c₁, hscheduled, htold⟩ := ok_of_bind hrun
  have hup : Service.agents ∉ c.directory.outages := by
    intro hout
    have hfails : c.directory.activeAgents = .error (.unavailable .agents) := if_pos hout
    unfold scheduleSnat at hscheduled
    simp only [hgateway, Bool.not_true, Bool.false_eq_true, if_false] at hscheduled
    rw [run_on_bind, run_on_ask, hfails] at hscheduled
    cases hscheduled
  by_cases hoffers : ∃ a, c.directory.Offers router a
  · obtain ⟨outcome', s, draws, hrun', hschedules⟩ := schedule_snat_schedules hup router
    cases hscheduled.symm.trans hrun'
    have hcontains : c.store.snat.contains router.id = false := by simp [Table.contains, hget]
    obtain ⟨a, rfl⟩ := hschedules.due.bound.2 ⟨hgateway, hoffers, hcontains⟩
    cases hschedules with
    | bound => cases htold; exact .bound hdistributed hgateway hget
  · obtain ⟨outcome', hrun', hunbound⟩ := schedule_snat_unoffered hup hgateway hoffers
    cases hscheduled.symm.trans hrun'
    have hsame : c' = c := by
      cases outcome with
      | bound a => exact absurd rfl (hunbound a)
      | noGateway | noActiveAgents | noCandidates | alreadyBound => cases htold; rfl
    rw [hsame]
    exact .idle (.unoffered hgateway hfree hup hoffers)

/-- A router without gateway gives up the row that is stored for it. -/
theorem reconcile_no_gateway_cases (hdistributed : router.distributed)
    (hgateway : router.hasGateway = false) {b : SnatBinding}
    (hrow : c.store.snatOf? router.id = .ok (some b))
    (hrun : (reconcileNoGateway ctx router router.id).runOn c = (.ok (), c')) :
    c.Reconciles ctx router c' := by
  rw [reconcileNoGateway, run_on_bind, run_on_release_snat_node_eq, Store.snat_scoped_none,
    hrow] at hrun
  simp only at hrun
  rcases hneeded : c.directory.needsRouter ctx b.host router.id none with e | _ | _ <;>
    rw [hneeded] at hrun <;> cases hrun
  · exact .removed hdistributed hgateway hrow hneeded
  · exact .kept hdistributed hgateway hrow hneeded

/-- A reconciliation that ends well goes in one of the four ways, and has found the router. -/
theorem reconcile_cases (hknown : c.directory.routers.get? router.id = some router)
    (hrun : (reconcile ctx router.id).runOn c = (.ok (), c')) :
    c.directory.router? router.id = .ok (some router) ∧ c.Reconciles ctx router c' := by
  have hfound : c.directory.router? router.id = .ok (some router) := by
    cases hrouter : c.directory.router? router.id with
    | error e =>
        rw [reconcile, knownRouter, run_on_bind, run_on_bind, run_on_ask, hrouter] at hrun
        cases hrun
    | ok found => rw [Directory.of_ask_ok hrouter, hknown]
  refine ⟨hfound, ?_⟩
  rw [reconcile, run_on_bind, known_router_found hfound] at hrun
  simp only at hrun
  cases hdistributed : router.distributed with
  | false =>
      rw [hdistributed] at hrun
      cases hrun
      exact .idle (.centralized hdistributed)
  | true =>
      simp only [hdistributed, if_true] at hrun
      rw [run_on_bind, run_on_consult] at hrun
      rcases hrow : c.store.snatOf? router.id with e | _ | b
      · rw [hrow] at hrun
        cases hrun
      all_goals
        rw [hrow] at hrun
        cases hgateway : router.hasGateway <;> rw [hgateway] at hrun
      · cases hrun
        exact .idle (.released hgateway hrow)
      · exact reconcile_gateway_cases hdistributed hgateway hrow hrun
      · exact reconcile_no_gateway_cases hdistributed hgateway hrow hrun
      · cases hrun
        exact .idle (.bound hgateway hrow)

/-- Reconciliation binds a distributed router that has a gateway and no row, where an agent is
found. -/
theorem reconcile_binds (hd : c.directory.Serving) {id : String}
    (hknown : c.directory.routers.get? id = some router) (hdistributed : router.distributed)
    (hgateway : router.hasGateway) (hfree : c.store.snatOf? id = .ok none) {a : Agent}
    (hrun : (scheduleSnat router).runOn c = (.ok (.bound a), c')) :
    (reconcile ctx id).runOn c =
      (.ok (), { c' with sent := c'.sent ++ [.routersUpdatedOnHost [router.id] a.host] }) := by
  rw [reconcile, run_on_bind, known_router_serving hd, hknown]
  simp only [hdistributed, if_true]
  rw [run_on_bind, run_on_consult, hfree]
  simp only [map_error_ok, hgateway]
  rw [reconcileGateway, run_on_bind, hrun]
  rfl

/-- The row of the router is as it was, or a new one that agrees with the router, or it is gone. A
row that is as it was may not be that of a distributed router without gateway. -/
theorem Reconciles.row_cases (h : c.Reconciles ctx router c') :
    (c'.store.snat.get? router.id = c.store.snat.get? router.id ∧
      (c.store.snat.get? router.id = none ∨ (router.distributed → router.hasGateway))) ∨
    (c.store.snat.get? router.id = none ∧
      ∃ text, c'.store.snat.get? router.id = some text ∧ router.Agrees text) ∨
    router.distributed ∧ router.hasGateway = false ∧ c'.store.snat.get? router.id = none := by
  have hgone : (c.store.dropSnat router.id).snat.get? router.id = none := Table.get_erase_self _ _
  cases h with
  | idle hrest =>
      refine .inl ⟨rfl, ?_⟩
      cases hrest with
      | centralized hcentralized =>
          refine .inr fun hdistributed => ?_
          rw [hcentralized] at hdistributed
          cases hdistributed
      | bound hgateway => exact .inr fun _ => hgateway
      | released _ hfree | unoffered _ hfree => exact .inl (Store.get_of_snat_of_none hfree)
  | @bound a _ hdistributed hgateway hfree =>
      exact .inr (.inl ⟨hfree, _, Store.get_snat_with_snat c.store router a, hdistributed, hgateway,
        _, SnatBinding.of_text_to_text _, rfl, rfl⟩)
  | kept hdistributed hgateway | removed hdistributed hgateway =>
      exact .inr (.inr ⟨hdistributed, hgateway, hgone⟩)

/-- After a reconciliation that ends well a row is stored for a distributed router only if the
router has a gateway. Any row is the one that was there before, or a new one that agrees with the
router. So what is stored agrees with the router exactly if what was stored did, or was the row of a
distributed router without gateway, which is dropped. -/
theorem reconcile_leaves (hknown : c.directory.routers.get? router.id = some router)
    (hrun : (reconcile ctx router.id).runOn c = (.ok (), c')) :
    (∀ text, c'.store.snat.get? router.id = some text →
      (router.distributed → router.hasGateway) ∧
        (c.store.snat.get? router.id = some text ∨
          c.store.snat.get? router.id = none ∧ router.Agrees text)) ∧
    ((∀ text, c'.store.snat.get? router.id = some text → router.Agrees text) ↔
      ∀ text, c.store.snat.get? router.id = some text →
        router.Agrees text ∨ router.distributed ∧ router.hasGateway = false) := by
  obtain ⟨-, hreconciles⟩ := reconcile_cases hknown hrun
  obtain ⟨hsame, hidle⟩ | ⟨hfree, text, hrow, hagrees⟩ | ⟨hdistributed, hgateway, hgone⟩ :=
    hreconciles.row_cases
  · rw [hsame]
    have hgateway {text : String} (hrow : c.store.snat.get? router.id = some text) :
        router.distributed → router.hasGateway := by
      rcases hidle with hnone | hgateway
      · rw [hnone] at hrow
        cases hrow
      · exact hgateway
    refine ⟨fun text hrow => ⟨hgateway hrow, .inl hrow⟩, fun h text hrow => .inl (h text hrow),
      fun h text hrow => (h text hrow).resolve_right fun ⟨hdistributed, hnone⟩ => ?_⟩
    rw [hgateway hrow hdistributed] at hnone
    cases hnone
  · rw [hrow, hfree]
    constructor
    · rintro _ ⟨⟩
      exact ⟨fun _ => hagrees.2.1, .inr ⟨rfl, hagrees⟩⟩
    · refine iff_of_true ?_ ?_
      · rintro _ ⟨⟩
        exact hagrees
      · rintro _ ⟨⟩
  · rw [hgone]
    constructor
    · rintro _ ⟨⟩
    · refine iff_of_true ?_ fun text _ => .inr ⟨hdistributed, hgateway⟩
      rintro _ ⟨⟩

end Controller

/-! ## A router that changes while it is bound -/

namespace SoleHost

/-- The router once its gateway has a port. -/
def ported : Router := { router with gateway := some ⟨"ext", some "gw1"⟩ }

/-- The router once it is no longer distributed. -/
def centralized : Router := { router with distributed := false }

/-- The agent translates for the router, of which there is another record now. -/
def outdated (r : Router) : Controller :=
  { bound.controller with directory := bound.controller.directory.putRouter r }

theorem outdated_found {r : Router}
    (hknown : (outdated r).directory.routers.get? router.id = some r) :
    (outdated r).directory.router? router.id = .ok (some r) := by
  rw [Directory.router?, hknown]
  exact (directory_serving.put_router r).ask_ok _ _

theorem outdated_row (r : Router) : (outdated r).store.snatOf? router.id = .ok (some translation) :=
  Store.snat_of_with_snat ∅ router agent

/-- The router is bound to the only agent when it is reconciled for the first time. -/
theorem first_reconciled :
    ∃ c, (Controller.reconcile .administrator router.id).runOn start.controller = (.ok (), c) ∧
      c.store.snat.get? router.id = some translation.toText := by
  have hup : Service.agents ∉ start.controller.directory.outages := by decide
  have hknown : start.controller.directory.routers.get? router.id = some router := by
    decide +kernel
  obtain ⟨outcome, s, draws, hrun, hschedules⟩ := Controller.schedule_snat_schedules hup router
  obtain ⟨a, rfl⟩ := hschedules.due.bound.2 ⟨rfl, ⟨agent, agent_offered⟩, rfl⟩
  cases hschedules with
  | bound hgateway hoffers hfree =>
      obtain rfl : a = agent := List.mem_singleton.1 hoffers.listed
      exact ⟨_, Controller.reconcile_binds directory_serving hknown rfl hgateway rfl hrun,
        Store.get_snat_with_snat ∅ router agent⟩

end SoleHost

namespace Controller

open SoleHost in
theorem reconcile_leaves_sole_host :
    start.controller.directory.routers.get? router.id = some router ∧
      ∃ c, (reconcile .administrator router.id).runOn start.controller = (.ok (), c) ∧
        c.store.snat.get? router.id = some translation.toText ∧
        (∀ text, c.store.snat.get? router.id = some text →
          (router.distributed → router.hasGateway) ∧
            (start.controller.store.snat.get? router.id = some text ∨
              start.controller.store.snat.get? router.id = none ∧ router.Agrees text)) ∧
        ((∀ text, c.store.snat.get? router.id = some text → router.Agrees text) ↔
          ∀ text, start.controller.store.snat.get? router.id = some text →
            router.Agrees text ∨ router.distributed ∧ router.hasGateway = false) := by
  have hknown : start.controller.directory.routers.get? router.id = some router := by
    decide +kernel
  obtain ⟨c, hrun, hrow⟩ := first_reconciled
  exact ⟨hknown, c, hrun, hrow, reconcile_leaves hknown hrun⟩

open SoleHost in
/-- The row of a router names no gateway port, and stays as it is when the router is reconciled
after its gateway got one, and when it is reconciled after it ceased to be distributed. -/
theorem stale_row_kept :
    ((outdated ported).directory.routers.get? router.id = some ported ∧
      (reconcile .administrator router.id).runOn (outdated ported) = (.ok (), outdated ported) ∧
      (outdated ported).store.snatOf? router.id = .ok (some translation) ∧
      translation.gatewayPort ≠ ported.gatewayPort) ∧
    (outdated centralized).directory.routers.get? router.id = some centralized ∧
      (reconcile .administrator router.id).runOn (outdated centralized) =
        (.ok (), outdated centralized) ∧
      (outdated centralized).store.snatOf? router.id = .ok (some translation) ∧
      ¬centralized.distributed := by
  have hported : (outdated ported).directory.routers.get? router.id = some ported :=
    Table.get_insert_self _ _ _
  have hcentralized : (outdated centralized).directory.routers.get? router.id =
      some centralized := Table.get_insert_self _ _ _
  refine ⟨⟨hported, ?_, outdated_row ported, by decide⟩, hcentralized, ?_,
    outdated_row centralized, by decide⟩
  · show (reconcile .administrator ported.id).runOn _ = _
    exact reconcile_at_rest (outdated_found hported) (.bound rfl (outdated_row ported))
  · show (reconcile .administrator centralized.id).runOn _ = _
    exact reconcile_at_rest (outdated_found hcentralized) (.centralized rfl)

end Controller

end RouterBinding
