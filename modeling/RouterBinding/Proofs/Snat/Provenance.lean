import RouterBinding.Proofs.Controller.Atomic
import RouterBinding.Proofs.Controller.Shedding
import RouterBinding.Proofs.Event.Run

/-!
# Where SNAT bindings come from

Three calls bind address translation, each under a guard of its own: scheduling chooses among the
agents that may run it, explicit assignment looks at the mode of its agent, and reconciliation
schedules for a router of the directory. A row that is `Earned` names a distributed router with a
gateway and an agent in the `dvr_snat` mode, as they were when it was written.

`new_row_earned` is the step: a row that was not there before was written by one of these calls, and
is earned. `snat_row_provenance` follows each row of a run back to the call that wrote it.
-/

namespace RouterBinding

open Relation

/-- A row of the SNAT table that binds the address translation of a router, which is distributed and
has a gateway, to an agent, which reports the mode for it. -/
structure Earned (router : Router) (agent : Agent) (key text : String) : Prop where
  distributed : router.distributed
  gateway : router.hasGateway
  mode : agent.report.get? "agent_mode" = some (.string "dvr_snat")
  /-- The row is filed under the router. -/
  key_eq : key = router.id
  /-- The row names the agent, its host and the gateway port. -/
  text_eq : text = SnatBinding.toText ⟨router.id, agent.id, agent.host, router.gatewayPort⟩

/-- The settings tell the mode only if the agent reports it. -/
theorem reported_of_mode {agent : Agent} (h : agent.settings.mode = .dvrSnat) :
    agent.report.get? "agent_mode" = some (.string "dvr_snat") := by
  have hmode : (((agent.report.get? "agent_mode").bind Json.Value.text?).bind
      AgentMode.ofName?).getD .legacy = .dvrSnat := h
  cases hreport : agent.report.get? "agent_mode" with
  | none =>
      rw [hreport] at hmode
      cases hmode
  | some value =>
      rw [hreport] at hmode
      cases value with
      | string name =>
          have hname : (AgentMode.ofName? name).getD .legacy = .dvrSnat := hmode
          unfold AgentMode.ofName? at hname
          split at hname
          · cases hname
          split at hname
          · cases hname
          split at hname
          next h => rw [h]
          next => cases hname
      | _ => cases hmode

/-- A row of the SNAT table that was not there before. -/
structure Store.Gains (s s' : Store) (key text : String) : Prop where
  here : s'.snat.get? key = some text
  new : s.snat.get? key ≠ some text

theorem Store.Sheds.not_gains {s s' : Store} {key text : String} (h : s.Sheds s') :
    ¬ s.Gains s' key text :=
  fun hgains => hgains.new (h key text hgains.here)

namespace Transaction

theorem insert_snat_gains {b : SnatBinding} {s s' : Store} {key text : String}
    (hrun : insertSnat b s = .ok ((), s')) (h : s.Gains s' key text) :
    s.snat.get? key = none ∧ key = b.key ∧ text = b.toText := by
  rw [insert_snat_apply] at hrun
  split at hrun
  · cases hrun
  next hfree =>
    cases hrun
    obtain ⟨hhere, hnew⟩ := h
    simp only [Table.get_insert] at hhere
    split at hhere
    next hkey =>
      obtain rfl : b.key = key := by simpa using hkey
      refine ⟨?_, rfl, (Option.some.inj hhere).symm⟩
      simpa [Table.contains] using hfree
    next => exact absurd hhere hnew

/-- Binding gains one row, under a router that had none. -/
theorem bind_snat_gains {router : Router} {agent : Agent} {s s' : Store} {key text : String}
    (hrun : bindSnat router agent s = .ok ((), s')) (h : s.Gains s' key text) :
    s.snat.get? key = none ∧ key = router.id ∧
      text = SnatBinding.toText ⟨router.id, agent.id, agent.host, router.gatewayPort⟩ := by
  rw [bindSnat, bind_apply] at hrun
  cases hinsert : insertSnat ⟨router.id, agent.id, agent.host, router.gatewayPort⟩ s with
  | error e =>
      rw [hinsert] at hrun
      cases hrun
  | ok found =>
      obtain ⟨_, s₁⟩ := found
      rw [hinsert] at hrun
      -- the host binding that follows adds no row
      have hsheds : s₁.Sheds s' :=
        (Sheds.insert_host ⟨router.id, agent.id⟩).bind (fun _ => .pure ()) s₁ () s' hrun
      exact insert_snat_gains hinsert ⟨hsheds key text h.here, h.new⟩

end Transaction

namespace Controller

open RouterBinding.Action

variable {α β : Type} {c : Controller} {key text : String}

/-- What is gained behind a request that changes nothing, is gained by what follows it. -/
theorem gains_of_bind {a : Action α} {f : α → Action β} (ha : Quiet a)
    (h : c.store.Gains ((a >>= f).runOn c).2.store key text) :
    ∃ x c', a.runOn c = (.ok x, c') ∧ c.Unchanged c' ∧
      c'.store.Gains ((f x).runOn c').2.store key text := by
  have hsame := ha c
  rw [run_on_bind] at h
  rcases hrun : a.runOn c with ⟨e | x, c'⟩
  · rw [hrun] at h hsame
    exact absurd h (Store.Sheds.of_eq (congrArg Store.snat hsame.store)).not_gains
  · rw [hrun] at h hsame
    refine ⟨x, c', rfl, hsame, ?_⟩
    rwa [hsame.store]

/-- What follows a request and adds no row has not gained it. -/
theorem gains_of_before {a : Action α} {f : α → Action β} (hf : ∀ x, (f x).Sheds)
    (h : c.store.Gains ((a >>= f).runOn c).2.store key text) :
    c.store.Gains (a.runOn c).2.store key text := by
  rw [run_on_bind] at h
  rcases hrun : a.runOn c with ⟨e | x, c'⟩
  · rwa [hrun] at h
  · rw [hrun] at h
    exact ⟨hf x c' key text h.here, h.new⟩

theorem bind_chosen_gains {router : Router} {agent : Agent}
    (h : c.store.Gains ((bindChosen router agent).runOn c).2.store key text) :
    c.store.snat.get? key = none ∧ key = router.id ∧
      text = SnatBinding.toText ⟨router.id, agent.id, agent.host, router.gatewayPort⟩ := by
  rw [bind_chosen_store] at h
  cases hrun : Transaction.bindSnat router agent c.store with
  | error e =>
      rw [Store.commit_of_error hrun] at h
      exact absurd h (Store.Sheds.refl c.store).not_gains
  | ok found =>
      obtain ⟨_, s'⟩ := found
      rw [Store.commit_of_ok hrun] at h
      exact Transaction.bind_snat_gains hrun h

/-- Scheduling binds an agent of the directory that may translate for the router. -/
theorem schedule_snat_gains {router : Router}
    (h : c.store.Gains ((scheduleSnat router).runOn c).2.store key text) :
    ∃ agent ∈ c.directory.agents.values, Earned router agent key text ∧
      c.store.snat.get? key = none := by
  unfold scheduleSnat at h
  cases hgateway : router.hasGateway with
  | false =>
      rw [hgateway] at h
      exact absurd h (Store.Sheds.refl c.store).not_gains
  | true =>
      rw [hgateway] at h
      simp only [Bool.not_true, Bool.false_eq_true, if_false] at h
      obtain ⟨active, c₁, hactive, hsame₁, h⟩ := gains_of_bind (.ask _) h
      split at h
      next => exact absurd h (Store.Sheds.refl c₁.store).not_gains
      next =>
        obtain ⟨chosen, c₂, hchosen, hsame₂, h⟩ := gains_of_bind (Quiet.choose_one _) h
        cases chosen with
        | none => exact absurd h (Store.Sheds.refl c₂.store).not_gains
        | some agent =>
            have hcandidate := choose_one_mem hchosen
            obtain ⟨hdistributed, hmode⟩ := distributed_of_candidate hcandidate
            obtain ⟨hfree, hkey, htext⟩ := bind_chosen_gains h
            have hlisted : c.directory.activeAgents = .ok active := by
              rw [run_on_ask] at hactive
              cases hanswer : c.directory.activeAgents with
              | error e =>
                  rw [hanswer] at hactive
                  cases hactive
              | ok found =>
                  rw [hanswer] at hactive
                  cases hactive
                  rfl
            have hmem : agent ∈ c.directory.agents.values := by
              have hfound := (mem_candidates.1 hcandidate).1
              rw [Directory.of_ask_ok hlisted] at hfound
              exact (List.mem_filter.1 hfound).1
            refine ⟨agent, hmem, ⟨hdistributed, hgateway, reported_of_mode hmode, hkey, htext⟩, ?_⟩
            rw [← hsame₁.store, ← hsame₂.store]
            exact hfree

theorem bind_router_gains {agent : Agent} {router : Router}
    (h : c.store.Gains ((bindRouter agent router).runOn c).2.store key text) :
    Earned router agent key text ∧ c.store.snat.get? key = none := by
  unfold bindRouter at h
  split at h
  next htranslates =>
    simp only [translates, Bool.and_eq_true, decide_eq_true_eq] at htranslates
    obtain ⟨⟨hdistributed, hgateway⟩, hmode⟩ := htranslates
    rw [run_on_commit, Transaction.placing, Store.commit_map_error] at h
    cases hrun : Transaction.bindSnat router agent c.store with
    | error e =>
        rw [Store.commit_of_error hrun] at h
        exact absurd h (Store.Sheds.refl c.store).not_gains
    | ok found =>
        obtain ⟨_, s'⟩ := found
        rw [Store.commit_of_ok hrun] at h
        obtain ⟨hfree, hkey, htext⟩ := Transaction.bind_snat_gains hrun h
        exact ⟨⟨hdistributed, hgateway, reported_of_mode hmode, hkey, htext⟩, hfree⟩
  next =>
    -- any other agent is bound as a host only
    exact absurd h (Store.Sheds.not_gains (bind_host_sheds agent router c))

/-- Reconciliation binds an agent of the directory for the router that the directory knows. -/
theorem reconcile_gains {ctx : Context} {id : String}
    (h : c.store.Gains ((reconcile ctx id).runOn c).2.store key text) :
    ∃ router, c.directory.routers.get? id = some router ∧
      ∃ agent ∈ c.directory.agents.values, Earned router agent key text ∧
        c.store.snat.get? key = none := by
  obtain ⟨router, c₁, hknown, -, h'⟩ := gains_of_bind (.known_router id) h
  obtain ⟨rfl, hfound⟩ := known_router_ok hknown
  clear h
  refine ⟨router, hfound, ?_⟩
  split at h'
  next =>
    obtain ⟨row, c₂, -, hsame, h⟩ := gains_of_bind (.consult _) h'
    have hbound : c₂.store.Gains ((reconcileGateway router).runOn c₂).2.store key text := by
      cases hgateway : router.hasGateway <;> cases row <;> rw [hgateway] at h
      · exact absurd h (Store.Sheds.refl c₂.store).not_gains
      · exact absurd h (Store.Sheds.not_gains (reconcile_no_gateway_sheds ctx router id c₂))
      · exact h
      · exact absurd h (Store.Sheds.refl c₂.store).not_gains
    have hscheduled := schedule_snat_gains (gains_of_before (fun outcome => by
      cases outcome with
      | bound agent => exact notify_sheds _
      | _ => exact .pure ()) hbound)
    rwa [hsame.directory, hsame.store] at hscheduled
  next => exact absurd h' (Store.Sheds.refl c₁.store).not_gains

/-- Whatever it makes of an event, the controller adds no SNAT binding. -/
theorem follow_sheds (ctx : Context) (event : PortEvent) : (follow ctx event).Sheds := by
  cases event with
  | created port =>
      exact .ite ((bring_routers_sheds ctx port).bind fun _ => refresh_arp_sheds port .add)
        (.pure ())
  | updated original port =>
      refine .ite ((departed_sheds ctx original).bind fun _ => ?_) (arrived_sheds ctx original port)
      exact .ite (arrived_sheds ctx original port) (.pure ())
  | deleted port removals => exact port_deleted_sheds ctx port removals

end Controller

namespace Call

open Controller

/-- A call that may bind address translation, with the router and the agent that it may bind. -/
inductive Binds (d : Directory) : Call → Router → Agent → Prop where
  | scheduleSnat {router : Router} {agent : Agent} (hagent : agent ∈ d.agents.values) :
      Binds d (.scheduleSnat router) router agent
  | bindRouter (agent : Agent) (router : Router) : Binds d (.bindRouter agent router) router agent
  | reconcile {ctx : Context} {id : String} {router : Router} {agent : Agent}
      (hrouter : d.routers.get? id = some router) (hagent : agent ∈ d.agents.values) :
      Binds d (.reconcile ctx id) router agent

/-- A row that was not there before a call was written by it, and is earned. -/
theorem new_row_earned {call : Call} {c : Controller} {key text : String}
    (h : c.store.Gains (call.action.runOn c).2.store key text) :
    ∃ router agent, call.Binds c.directory router agent ∧ Earned router agent key text ∧
      c.store.snat.get? key = none := by
  have hnone : ¬ call.action.Sheds := fun hsheds => (hsheds c).not_gains h
  cases call with
  | scheduleSnat router =>
      obtain ⟨agent, hagent, hearned, hfree⟩ :=
        schedule_snat_gains (gains_of_before (fun _ => .pure ()) h)
      exact ⟨router, agent, .scheduleSnat hagent, hearned, hfree⟩
  | bindRouter agent router =>
      obtain ⟨hearned, hfree⟩ := bind_router_gains h
      exact ⟨router, agent, .bindRouter agent router, hearned, hfree⟩
  | reconcile ctx id =>
      obtain ⟨router, hrouter, agent, hagent, hearned, hfree⟩ := reconcile_gains h
      exact ⟨router, agent, .reconcile hrouter hagent, hearned, hfree⟩
  | releaseSnat router scope =>
      exact absurd (Action.Respects.discard
        (Action.commit_sheds ((Transaction.Sheds.delete_snat router scope).map_error _))) hnone
  | releaseNode ctx router binding =>
      exact absurd (release_node_sheds ctx router binding).discard hnone
  | releaseSnatNode ctx router scope =>
      exact absurd (release_snat_node_sheds ctx router scope).discard hnone
  | unschedule ctx router agents => exact absurd (unschedule_sheds ctx router agents) hnone
  | removeRouter ctx agent router => exact absurd (remove_router_sheds ctx agent router) hnone
  | purge agent =>
      exact absurd (Action.Respects.discard
        (Action.commit_sheds ((Transaction.Sheds.delete_agent agent).map_error _))) hnone
  | bringRouters ctx port => exact absurd (bring_routers_sheds ctx port).discard hnone
  | tearDown ctx port host => exact absurd (tear_down_sheds ctx port host).discard hnone
  | place router candidates => exact absurd (place_sheds router candidates).discard hnone
  | bindHost agent router => exact absurd (bind_host_sheds agent router) hnone
  | unbindHosts router agents => exact absurd (unbind_hosts_sheds router agents) hnone
  | removeHost agent router => exact absurd (remove_host_sheds agent router) hnone
  | release router scope dropHost =>
      exact absurd (Action.Respects.discard (Action.commit_sheds
        ((Transaction.Sheds.release router scope dropHost).map_error _))) hnone

end Call

namespace Exchange

variable {w : Practice} {admits : Directory → Prop} {x y : Exchange} {key text : String}

/-- A row that was not there before a step was written by a call that binds. -/
theorem Step.new_row_earned (hstep : Step w admits x y) (hbus : x.Registered)
    (h : x.controller.store.Gains y.controller.store key text) :
    ∃ (call : Call) (router : Router) (agent : Agent),
      call.Binds x.controller.directory router agent ∧ y = (x.request call.action).2 ∧
        Earned router agent key text ∧ x.controller.store.snat.get? key = none := by
  cases hstep with
  | call call hcall =>
      obtain ⟨router, agent, hbinds, hearned, hfree⟩ := Call.new_row_earned h
      exact ⟨call, router, agent, hbinds, rfl, hearned, hfree⟩
  | publish nesting ctx event outcome hpublish =>
      cases nesting with
      | zero => cases hpublish
      | succ nesting =>
          rw [publish_registered hbus] at hpublish
          cases hpublish
          exact absurd h (Store.Sheds.not_gains (Controller.follow_sheds ctx event x.controller))
  | change d draws hadmits => exact absurd h (Store.Sheds.refl _).not_gains

/-- A step of a run of any kind, after which the SNAT table holds a row. -/
def HoldingStep (key text : String) (x y : Exchange) : Prop :=
  Step .anything (fun _ => True) x y ∧ y.controller.store.snat.get? key = some text

/-- A SNAT row goes back to a call earlier in a run, which found no row under its key. -/
structure Written (x : Exchange) (key text : String) (u : Exchange) (call : Call)
    (router : Router) (agent : Agent) : Prop where
  reachable : Reachable .anything (fun _ => True) u
  binds : call.Binds u.controller.directory router agent
  earned : Earned router agent key text
  free : u.controller.store.snat.get? key = none
  written : (u.request call.action).2.controller.store.snat.get? key = some text
  /-- The row has been there ever since. -/
  since : ReflTransGen (HoldingStep key text) (u.request call.action).2 x

/-- However calls, events, repairs and changes of the directory follow one another from an empty
store, each SNAT row was written by a call that binds address translation: its router was
distributed and had a gateway then, its agent reported the mode for it, and the row is filed under
the router and names the agent, its host and the gateway port as they were. -/
theorem snat_row_provenance (hx : Reachable .anything (fun _ => True) x)
    (hrow : x.controller.store.snat.get? key = some text) :
    ∃ u call router agent, x.Written key text u call router agent := by
  induction hx with
  | start hbus hstore hadmits =>
      rw [hstore] at hrow
      cases hrow
  | @step x y hx hstep ih =>
      by_cases hbefore : x.controller.store.snat.get? key = some text
      · obtain ⟨u, call, router, agent, hwritten⟩ := ih hbefore
        exact ⟨u, call, router, agent, { hwritten with
          since := hwritten.since.tail ⟨hstep, hrow⟩ }⟩
      · obtain ⟨hbus, -⟩ := hx.invariant (P := fun _ => True) (fun _ _ _ _ => trivial)
          ⟨trivial, fun _ _ _ _ _ _ _ => trivial⟩
        obtain ⟨call, router, agent, hbinds, rfl, hearned, hfree⟩ :=
          hstep.new_row_earned hbus ⟨hrow, hbefore⟩
        exact ⟨x, call, router, agent, hx, hbinds, hearned, hfree, hrow, .refl⟩

open SoleHost in
/-- The row of the router on one host goes back to the assignment of its agent. -/
theorem snat_row_provenance_sole_host :
    ∃ text u call router agent, bound.controller.store.snat.get? "r1" = some text ∧
      bound.Written "r1" text u call router agent := by
  have hrow : bound.controller.store.snat.get? "r1" =
      some (SnatBinding.toText ⟨"r1", "a1", "h1", none⟩) := rfl
  obtain ⟨u, call, router, agent, hwritten⟩ :=
    snat_row_provenance (bound_reachable trivial trivial) hrow
  exact ⟨_, u, call, router, agent, hrow, hwritten⟩

end Exchange

end RouterBinding
