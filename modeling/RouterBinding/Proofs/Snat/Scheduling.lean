import RouterBinding.Proofs.Controller.Atomic
import RouterBinding.Proofs.Snat.Provenance

/-!
# The outcome of scheduling

An agent may translate for a router by what it reports, read as it stands: `Eligible` names no
settings, and `rejection_none_iff` says that the rules for settings come down to it. `Schedules` has
one case for each way in which scheduling ends, and `schedule_snat_schedules` says that one of them
applies, over stores of any content and whatever words are drawn. `schedule_snat_due` puts together
which outcome is due when, what it writes, and how it fits the question whether a router waits to be
scheduled.
-/

namespace RouterBinding

/-! ## Eligible agents -/

/-- By what it reports, an agent may translate for a distributed router: it works in the mode for
it, and names no other router and no network but that of the gateway. -/
structure Agent.Eligible (a : Agent) (router : Router) : Prop where
  distributed : router.distributed
  mode : a.report.get? "agent_mode" = some (.string "dvr_snat")
  pinned : ∀ id, a.report.get? "router_id" = some (.string id) → id ≠ "" → id = router.id
  network : ∀ network, a.report.get? "gateway_external_network_id" = some (.string network) →
    network ≠ "" → router.gatewayNetwork = some network

theorem AgentSettings.reported_text_iff {report : Table String Json.Value} {name text : String} :
    reportedText report name = some text ↔
      report.get? name = some (.string text) ∧ text ≠ "" := by
  have htext : ∀ v : Json.Value, v.text? = some text ↔ v = .string text := by
    intro v
    cases v <;> simp [Json.Value.text?]
  simp [reportedText, Option.filter_eq_some_iff, Option.bind_eq_some_iff, htext]

theorem mode_iff_reported {a : Agent} :
    a.settings.mode = .dvrSnat ↔ a.report.get? "agent_mode" = some (.string "dvr_snat") := by
  refine ⟨reported_of_mode, fun h => ?_⟩
  simp [Agent.settings, AgentSettings.ofReport, h, Json.Value.text?, AgentMode.ofName?]

/-- The gateway of a router is accepted if the settings name no other network. -/
theorem gateway_rejection_none_iff {s : AgentSettings} {network : String} :
    s.gatewayRejection? (some network) = none ↔
      ∀ own, s.externalNetwork = some own → some network = some own := by
  unfold AgentSettings.gatewayRejection?
  cases s.externalNetwork <;> simp

/-- The rules that an agent in service may break are those of its report. -/
theorem rejection_none_iff {router : Router} {a : Agent} (hgateway : router.hasGateway)
    (hup : a.adminUp) : rejection? router a = none ↔ a.Eligible router := by
  obtain ⟨network, hnetwork⟩ : ∃ network, router.gatewayNetwork = some network := by
    obtain ⟨g, hg⟩ := Option.isSome_iff_exists.1 hgateway
    exact ⟨g.network, by simp [Router.gatewayNetwork, hg]⟩
  have hsettings : rejection? router a = none ↔ router.distributed ∧
      a.settings.mode = .dvrSnat ∧ (∀ id, a.settings.pinnedRouter = some id → id = router.id) ∧
      ∀ own, a.settings.externalNetwork = some own → router.gatewayNetwork = some own := by
    rw [hnetwork, ← gateway_rejection_none_iff, ← hnetwork]
    unfold rejection?
    by_cases hdistributed : router.distributed
    · by_cases hmode : a.settings.mode = .dvrSnat
      · cases a.settings.pinnedRouter with
        | none => simp [hup, hdistributed, hmode]
        | some id => by_cases hid : id = router.id <;> simp [hup, hdistributed, hmode, hid]
      · simp [hup, hdistributed, hmode]
    · simp [hdistributed]
  have hpinned : a.settings.pinnedRouter = AgentSettings.reportedText a.report "router_id" := rfl
  have hexternal : a.settings.externalNetwork =
      AgentSettings.reportedText a.report "gateway_external_network_id" := rfl
  rw [hsettings, mode_iff_reported, hpinned, hexternal]
  simp only [AgentSettings.reported_text_iff, and_imp]
  exact ⟨fun ⟨hdistributed, hmode, hpin, hnet⟩ => ⟨hdistributed, hmode, hpin, hnet⟩,
    fun ⟨hdistributed, hmode, hpin, hnet⟩ => ⟨hdistributed, hmode, hpin, hnet⟩⟩

/-- An agent in the directory is active and may translate for a router. -/
structure Directory.Offers (d : Directory) (router : Router) (a : Agent) : Prop where
  listed : a ∈ d.agents.values
  active : a.isActive
  eligible : a.Eligible router

namespace Directory

variable {d : Directory} {router : Router} {a : Agent}

/-- Where an agent is offered, an agent is active. -/
theorem Offers.busy (h : d.Offers router a) : ∃ a ∈ d.agents.values, a.isActive :=
  ⟨a, h.listed, h.active⟩

/-- A directory that answers lists the active agents. -/
theorem active_agents_ok (hup : Service.agents ∉ d.outages) :
    d.activeAgents = .ok (d.agents.values.filter (·.isActive)) := by
  rw [activeAgents, agentsWhere, ask, if_neg hup]
  congr 2
  funext a
  simp [AgentFilter.accepts]

/-- The candidates for a router with a gateway are the agents that the directory offers. -/
theorem mem_candidates_iff (hgateway : router.hasGateway) :
    a ∈ candidates router (d.agents.values.filter (·.isActive)) ↔ d.Offers router a := by
  rw [mem_candidates, List.mem_filter]
  constructor
  · rintro ⟨⟨hlisted, hactive⟩, hnone⟩
    have hup : a.adminUp := (Bool.and_eq_true_iff.1 hactive).1
    exact ⟨hlisted, hactive, (rejection_none_iff hgateway hup).1 hnone⟩
  · rintro ⟨hlisted, hactive, heligible⟩
    have hup : a.adminUp := (Bool.and_eq_true_iff.1 hactive).1
    exact ⟨⟨hlisted, hactive⟩, (rejection_none_iff hgateway hup).2 heligible⟩

end Directory

/-! ## Scheduling -/

namespace Controller

open RouterBinding.Action

/-- How scheduling the address translation of a router ends, and the store it leaves. -/
inductive Schedules (c : Controller) (router : Router) : SnatOutcome → Store → Prop where
  | noGateway (hgateway : router.hasGateway = false) : Schedules c router .noGateway c.store
  | noActiveAgents (hgateway : router.hasGateway)
      (hnone : ¬∃ a ∈ c.directory.agents.values, a.isActive) :
      Schedules c router .noActiveAgents c.store
  | noCandidates (hgateway : router.hasGateway)
      (hactive : ∃ a ∈ c.directory.agents.values, a.isActive)
      (hnone : ¬∃ a, c.directory.Offers router a) : Schedules c router .noCandidates c.store
  | alreadyBound (hgateway : router.hasGateway) {a : Agent} (hoffers : c.directory.Offers router a)
      (hrow : c.store.snat.contains router.id) : Schedules c router .alreadyBound c.store
  | bound (hgateway : router.hasGateway) {a : Agent} (hoffers : c.directory.Offers router a)
      (hfree : c.store.snat.contains router.id = false) :
      Schedules c router (.bound a) (c.store.withSnat router a)

variable {c : Controller} {router : Router}

/-- While the directory answers for its agents, scheduling does not fail, and changes nothing but
the store and the words drawn. -/
theorem schedule_snat_schedules (hup : Service.agents ∉ c.directory.outages) (router : Router) :
    ∃ outcome s draws, (scheduleSnat router).runOn c =
        (.ok outcome, { c with store := s, draws := draws }) ∧ c.Schedules router outcome s := by
  unfold scheduleSnat
  cases hgateway : router.hasGateway with
  | false => exact ⟨_, _, c.draws, rfl, .noGateway hgateway⟩
  | true =>
      simp only [Bool.not_true, Bool.false_eq_true, if_false]
      rw [run_on_bind, run_on_ask, Directory.active_agents_ok hup]
      simp only [map_error_ok]
      cases hactive : (c.directory.agents.values.filter (·.isActive)).isEmpty with
      | true =>
          refine ⟨_, _, c.draws, rfl, .noActiveAgents hgateway fun ⟨a, ha, hup⟩ => ?_⟩
          exact List.filter_eq_nil_iff.1 (List.isEmpty_iff.1 hactive) a ha hup
      | false =>
          have hrun : (chooseOne (candidates router
              (c.directory.agents.values.filter (·.isActive)))).runOn c =
              (.ok (c.draws.choose (candidates router
                  (c.directory.agents.values.filter (·.isActive)))).1,
                { c with draws := (c.draws.choose (candidates router
                  (c.directory.agents.values.filter (·.isActive)))).2 }) := rfl
          simp only [Bool.false_eq_true, if_false]
          rw [run_on_bind, hrun]
          cases hchosen : (c.draws.choose (candidates router
              (c.directory.agents.values.filter (·.isActive)))).1 with
          | none =>
              obtain ⟨a, ha⟩ := List.isEmpty_eq_false_iff_exists_mem.1 hactive
              refine ⟨_, _, _, rfl,
                .noCandidates hgateway ⟨a, List.mem_filter.1 ha⟩ fun ⟨b, hb⟩ => ?_⟩
              -- a choice among candidates would have found one
              have hmem := (Directory.mem_candidates_iff hgateway).2 hb
              obtain ⟨b', -, hfound⟩ := Draws.choose_mem (List.ne_nil_of_mem hmem) c.draws
              rw [hchosen] at hfound
              cases hfound
          | some a =>
              rw [hchosen] at hrun
              have hoffers := (Directory.mem_candidates_iff hgateway).1 (choose_one_mem hrun)
              simp only
              rw [bind_chosen_eq]
              cases hrow : c.store.snat.contains router.id with
              | true => exact ⟨_, _, _, rfl, .alreadyBound hgateway hoffers hrow⟩
              | false => exact ⟨_, _, _, rfl, .bound hgateway hoffers hrow⟩

/-- The outcome that is due, by the gateway of the router, the agents of the directory and the row
that is stored under the id of the router. -/
structure Due (c : Controller) (router : Router) (outcome : SnatOutcome) : Prop where
  noGateway : outcome = .noGateway ↔ router.hasGateway = false
  noActiveAgents : outcome = .noActiveAgents ↔
    router.hasGateway ∧ ¬∃ a ∈ c.directory.agents.values, a.isActive
  noCandidates : outcome = .noCandidates ↔ router.hasGateway ∧
    (∃ a ∈ c.directory.agents.values, a.isActive) ∧ ¬∃ a, c.directory.Offers router a
  alreadyBound : outcome = .alreadyBound ↔ router.hasGateway ∧
    (∃ a, c.directory.Offers router a) ∧ c.store.snat.contains router.id
  bound : (∃ a, outcome = .bound a) ↔ router.hasGateway ∧
    (∃ a, c.directory.Offers router a) ∧ c.store.snat.contains router.id = false

theorem Schedules.due {outcome : SnatOutcome} {s : Store} (h : c.Schedules router outcome s) :
    c.Due router outcome := by
  cases h with
  | noGateway hgateway => constructor <;> simp [hgateway]
  | noActiveAgents hgateway hnone =>
      have hoffers : ¬∃ a, c.directory.Offers router a := fun ⟨_, ha⟩ => hnone ha.busy
      constructor <;> simp only [hgateway, hnone, hoffers] <;> simp
  | noCandidates hgateway hactive hnone =>
      constructor <;> simp only [hgateway, hactive, hnone] <;> simp
  | alreadyBound hgateway hoffers hrow =>
      have hsome := Exists.intro _ hoffers
      constructor <;> simp only [hgateway, hoffers.busy, hsome, hrow] <;> simp
  | bound hgateway hoffers hfree =>
      have hsome := Exists.intro _ hoffers
      constructor <;> simp only [hgateway, hoffers.busy, hsome, hfree] <;> simp

/-- A distributed router waits to be scheduled if it has a gateway and no row is stored for it. -/
theorem needs_scheduling_iff (hdistributed : router.distributed) :
    (needsScheduling router).runOn c = (.ok true, c) ↔
      router.hasGateway ∧ c.store.snat.contains router.id = false := by
  unfold needsScheduling
  cases hgateway : router.hasGateway with
  | false => simp [hdistributed]
  | true =>
      simp only [hdistributed, Bool.not_true, Bool.false_eq_true, if_false]
      rw [run_on_bind, run_on_consult, Table.contains, Store.snatOf?, Store.row?]
      cases hget : c.store.snat.get? router.id with
      | none => simp
      | some text =>
          simp only [Store.decoded]
          cases SnatBinding.ofText? text <;> simp [Except.map]

/-- A router that was bound does not wait to be scheduled. -/
theorem bound_needs_none (hdistributed : router.distributed) {s : Store} {a : Agent}
    (hstore : c.store = s.withSnat router a) :
    (needsScheduling router).runOn c = (.ok false, c) := by
  unfold needsScheduling
  simp only [hdistributed, Bool.not_true, Bool.false_eq_true, if_false]
  split
  next => rfl
  next =>
    rw [run_on_bind, run_on_consult, hstore, Store.snat_of_with_snat]
    rfl

/-- Scheduling a router again finds it bound, whatever became of the agents, as long as one is
offered. -/
def Taken (c : Controller) (router : Router) : Prop :=
  ∀ d draws, Service.agents ∉ d.outages → (∃ a, d.Offers router a) →
    ∃ draws', (scheduleSnat router).runOn { c with directory := d, draws := draws } =
      (.ok .alreadyBound, { c with directory := d, draws := draws' })

theorem taken_of_row (hgateway : router.hasGateway) (hrow : c.store.snat.contains router.id) :
    c.Taken router := by
  intro d draws hup hoffers
  obtain ⟨outcome, s, draws', hrun, hschedules⟩ :=
    schedule_snat_schedules (c := { c with directory := d, draws := draws }) hup router
  obtain rfl := hschedules.due.alreadyBound.2 ⟨hgateway, hoffers, hrow⟩
  cases hschedules with
  | alreadyBound => exact ⟨draws', hrun⟩

/-- While the directory answers for its agents, scheduling the address translation of a router does
not fail, and its outcome is the one that is due. A router is bound to an agent that is offered, by
its own two rows, and found bound from then on; any other outcome leaves the store alone. For a
distributed router that waits to be scheduled the outcome is to bind it or to find no agent, and no
other is bound. -/
theorem schedule_snat_due (hup : Service.agents ∉ c.directory.outages) (router : Router) :
    ∃ outcome c', (scheduleSnat router).runOn c = (.ok outcome, c') ∧
      c'.directory = c.directory ∧ c'.sent = c.sent ∧ c.Due router outcome ∧
      (∀ a, outcome = .bound a → c.directory.Offers router a ∧
        c'.store = c.store.withSnat router a ∧ c'.Taken router) ∧
      ((∀ a, outcome ≠ .bound a) → c'.store = c.store) ∧
      (router.distributed →
        ((∃ a, outcome = .bound a) ↔
          (needsScheduling router).runOn c = (.ok true, c) ∧ ∃ a, c.directory.Offers router a) ∧
        ((needsScheduling router).runOn c = (.ok true, c) →
          outcome ≠ .noGateway ∧ outcome ≠ .alreadyBound) ∧
        ∀ a, outcome = .bound a → (needsScheduling router).runOn c' = (.ok false, c')) := by
  obtain ⟨outcome, s, draws, hrun, hschedules⟩ := schedule_snat_schedules hup router
  have hdue := hschedules.due
  have hbound : ∀ a, outcome = .bound a → router.hasGateway ∧ c.directory.Offers router a ∧
      s = c.store.withSnat router a := by
    rintro a rfl
    cases hschedules with
    | bound hgateway hoffers hfree => exact ⟨hgateway, hoffers, rfl⟩
  refine ⟨outcome, _, hrun, rfl, rfl, hdue, fun a ha => ?_, fun hnone => ?_, fun hdistributed => ?_⟩
  · obtain ⟨hgateway, hoffers, rfl⟩ := hbound a ha
    exact ⟨hoffers, rfl, taken_of_row hgateway (Store.contains_with_snat c.store router a)⟩
  · cases hschedules with
    | bound hgateway hoffers hfree => exact absurd rfl (hnone _)
    | _ => rfl
  · rw [needs_scheduling_iff hdistributed, hdue.bound]
    refine ⟨by rw [and_assoc, and_comm (a := _ = false)], fun ⟨hgateway, hfree⟩ => ⟨?_, ?_⟩,
      fun a ha => ?_⟩
    · rw [Ne, hdue.noGateway, hgateway]
      exact Bool.noConfusion
    · rw [Ne, hdue.alreadyBound, hfree]
      exact fun ⟨_, _, h⟩ => Bool.noConfusion h
    · obtain ⟨-, -, rfl⟩ := hbound a ha
      exact bound_needs_none hdistributed rfl

end Controller

/-! ## The only agent -/

namespace SoleHost

theorem agent_offered : directory.Offers router agent := by
  have hagents : directory.agents.values = [agent] := rfl
  refine ⟨by simp [hagents], rfl, ⟨rfl, by rfl, ?_, ?_⟩⟩
  · intro id h
    cases h
  · intro network h
    cases h

end SoleHost

namespace Controller

open SoleHost in
theorem schedule_snat_due_sole_host :
    Service.agents ∉ start.controller.directory.outages ∧
      ∃ c', (scheduleSnat router).runOn start.controller = (.ok (.bound agent), c') ∧
        c'.directory = SoleHost.directory ∧ c'.sent = [] ∧
        start.controller.Due router (.bound agent) ∧
        SoleHost.directory.Offers router agent ∧ c'.store = (∅ : Store).withSnat router agent ∧
        c'.Taken router ∧ (needsScheduling router).runOn c' = (.ok false, c') := by
  have hup : Service.agents ∉ start.controller.directory.outages := by decide
  obtain ⟨outcome, c', hrun, hdirectory, hsent, hdue, hbound, -, hneeds⟩ :=
    schedule_snat_due hup router
  obtain ⟨a, rfl⟩ := hdue.bound.2 ⟨rfl, ⟨agent, agent_offered⟩, rfl⟩
  obtain ⟨hoffers, hstore, htaken⟩ := hbound a rfl
  obtain rfl : a = agent := List.mem_singleton.1 hoffers.listed
  exact ⟨hup, c', hrun, hdirectory, hsent, hdue, hoffers, hstore, htaken, (hneeds rfl).2.2 _ rfl⟩

end Controller

end RouterBinding
