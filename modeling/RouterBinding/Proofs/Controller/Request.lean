import RouterBinding.Proofs.Controller.Write

/-!
# Every request obeys

One lemma for each request of the controller that changes something: whatever it answers, it makes
the changes of `Store.Write` only. Requests that place or drop host bindings on their own ask for a
practice that allows it; all others obey every practice that brings their router along.
-/

namespace RouterBinding

open Relation

namespace Controller

open RouterBinding.Action

variable {w : Practice} {routers : Table String Router}

/-! ## Placement by the number of routers -/

theorem pool_obeys (candidates : List Agent) : Obeys w routers (pool candidates) :=
  .ite (.ask _) (.pure _)

theorem place_obeys (router : String) (candidates : List Agent) :
    Obeys w routers (place router candidates) := by
  refine (pool_obeys candidates).bind fun agents => (Obeys.consult _).bind fun found => ?_
  cases found with
  | none => exact .pure none
  | some agent =>
      exact (Obeys.commit fun _ _ => Transaction.insert_host_writes _).bind fun _ => .pure _

theorem bind_host_obeys (agent : Agent) (router : Router) :
    Obeys w routers (bindHost agent router) :=
  (Obeys.commit fun _ _ => Transaction.insert_host_writes _).bind fun _ => .pure ()

/-- Dropping host bindings of a router is made of single drops, each of which may be made. -/
theorem unbind_hosts_moves (c : Controller) (router : String) (agents : List String)
    (hdrop : ∀ s agent, Store.Write w c.directory.routers s (s.dropHost ⟨router, agent⟩)) :
    Moves w c ((unbindHosts router agents).runOn c).2 := by
  have hstore : ∀ s : Store, ReflTransGen (Store.Write w c.directory.routers) s
      (agents.foldl (fun s agent => s.dropHost ⟨router, agent⟩) s) := by
    induction agents with
    | nil => exact fun s => .refl
    | cons agent agents ih => exact fun s => .head (hdrop s agent) (ih _)
  refine ⟨.refl _, ?_⟩
  show ReflTransGen _ c.store (c.store.commit _).2
  rw [Store.commit_of_ok (Transaction.unbind_hosts_eq router agents c.store)]
  exact hstore c.store

theorem unbind_hosts_obeys (hdrops : w.dropsHosts) (router : String) (agents : List String) :
    Obeys w routers (unbindHosts router agents) :=
  fun c _ _ => unbind_hosts_moves c router agents fun _ _ => .dropHost hdrops _

/-- Unbinding a router from one agent writes that drop and nothing else. -/
theorem remove_host_moves {c : Controller} (hs : c.store.Sound) (agent router : String)
    (hdrop : Store.Write w c.directory.routers c.store (c.store.dropHost ⟨router, agent⟩)) :
    Moves w c ((removeHost agent router).runOn c).2 := by
  have hdropped : Moves w c { c with store := c.store.dropHost ⟨router, agent⟩ } :=
    ⟨.refl _, .single hdrop⟩
  rw [removeHost, run_on_bind, run_on_delete_host]
  refine hdropped.trans (Obeys.ite ((Obeys.ask _).bind fun found => ?_) (.pure ()) _
    (hs.drop_host _) rfl)
  cases found with
  | none => exact .pure ()
  | some a => exact .notify _

theorem remove_host_obeys (hdrops : w.dropsHosts) (agent router : String) :
    Obeys w routers (removeHost agent router) :=
  fun _ hs _ => remove_host_moves hs agent router (.dropHost hdrops _)

/-! ## Routers that follow their ports -/

theorem ensure_host_obeys (agent : Agent) (router : String) :
    Obeys w routers (ensureHost agent router) := by
  refine (Obeys.consult _).bind fun found => .ite ?_ (.pure ())
  exact (place_obeys router [agent]).bind fun _ => .pure ()

theorem bring_to_obeys (ctx : Context) (port : Port) (host : String) (agent : Agent) :
    Obeys w routers (bringTo ctx port host agent) := by
  refine (Obeys.ask _).bind fun routers => ?_
  refine (Obeys.for_m fun router => ensure_host_obeys agent router).bind fun _ => ?_
  exact Obeys.ite ((Obeys.notify _).bind fun _ => .pure _) (.pure _)

theorem bring_routers_obeys (ctx : Context) (port : Port) :
    Obeys w routers (bringRouters ctx port) := by
  unfold bringRouters
  cases port.host with
  | none => exact .pure []
  | some host =>
      refine (Obeys.ask _).bind fun found => ?_
      cases found with
      | none => exact .pure []
      | some agent => exact bring_to_obeys ctx port host agent

/-- Replacing a link puts it, where the directory answers. -/
theorem update_link_obeys (l : InterfaceLink) : Obeys w routers (change (·.updateLink l)) := by
  intro c _ _
  rcases hlink : c.directory.updateLink l with e | d
  · rw [run_on_change_error hlink]
    exact .refl c
  · rw [run_on_change_ok hlink]
    have hput : d = c.directory.putLink l := by
      unfold Directory.updateLink at hlink
      cases hask : c.directory.ask .linkUpdate () with
      | error e => simp [hask, bind, Except.bind] at hlink
      | ok u =>
          simp only [hask, bind, Except.bind] at hlink
          split at hlink
          · exact (Except.ok.inj hlink).symm
          · cases hlink
    exact ⟨hput ▸ .put _ l, .refl⟩

theorem unlink_obeys (host : String) (interface : Port) :
    Obeys w routers (unlink host interface) := by
  refine (Obeys.ask _).bind fun found => ?_
  cases found with
  | none => exact .pure ()
  | some link => exact update_link_obeys _

theorem tear_down_router_obeys (ctx : Context) (port host : String) (agent : Option Agent)
    (router : String) : Obeys w routers (tearDownRouter ctx port host agent router) := by
  refine (Obeys.ask _).bind fun needed => .ite (.pure none) ?_
  cases agent with
  | none => exact .pure none
  | some agent =>
      refine (Obeys.ask _).bind fun interfaces => ?_
      exact (Obeys.for_m fun interface => unlink_obeys host interface).bind fun _ => .pure _

theorem left_host_obeys (port : String) (host : Option String) :
    Obeys w routers (leftHost port host) := by
  unfold leftHost
  cases host.filter (· ≠ "") with
  | none => exact .ask _
  | some host => exact .pure _

theorem tear_down_obeys (ctx : Context) (port : String) (host : Option String) :
    Obeys w routers (tearDown ctx port host) := by
  refine (Obeys.ask _).bind fun routers => (left_host_obeys port host).bind fun found => ?_
  cases found with
  | none => exact .pure []
  | some host =>
      refine .ite (.pure []) ((Obeys.ask _).bind fun agent => ?_)
      exact (Obeys.map_m fun r => tear_down_router_obeys ctx.elevated port host agent r).bind
        fun _ => .pure _

/-! ## Centralized address translation -/

theorem choose_one_obeys {α : Type} (items : List α) : Obeys w routers (chooseOne items) :=
  fun _ _ _ => .of_eq rfl rfl

/-- What is chosen is one of the items. -/
theorem choose_one_mem {α : Type} {items : List α} {a : α} {c c' : Controller}
    (h : (chooseOne items).runOn c = (.ok (some a), c')) : a ∈ items := by
  have hchosen : (c.draws.choose items).1 = some a := by
    have h := congrArg Prod.fst h
    exact Except.ok.inj h
  unfold Draws.choose at hchosen
  split at hchosen
  · cases hchosen
  · exact List.mem_of_getElem? hchosen

/-- An agent that may run the address translation of a router finds it distributed, and works in
the mode for it. -/
theorem distributed_of_candidate {router : Router} {agents : List Agent} {agent : Agent}
    (h : agent ∈ candidates router agents) :
    router.distributed ∧ agent.settings.mode = .dvrSnat := by
  obtain ⟨-, hnone⟩ := mem_candidates.1 h
  unfold rejection? at hnone
  split at hnone
  · cases hnone
  split at hnone
  · cases hnone
  split at hnone
  · cases hnone
  next hdistributed _ hmode =>
    exact ⟨by simpa using hdistributed, by simpa using hmode⟩

/-- Binding a chosen agent runs the transaction that binds, and turns some errors into outcomes. -/
theorem bind_chosen_store (router : Router) (agent : Agent) (c : Controller) :
    ((bindChosen router agent).runOn c).2 =
      { c with store := (c.store.commit (Transaction.bindSnat router agent)).2 } := by
  show (bindChosen router agent c).2 = _
  unfold bindChosen Store.commit
  rcases Transaction.bindSnat router agent c.store with e | ⟨_, s⟩
  · simp only
    split <;> rfl
  · rfl

theorem bind_chosen_obeys {router : Router} {agent : Agent}
    (hrouter : w.brings router ∨ ∃ id, routers.get? id = some router)
    (hdistributed : router.distributed) (hgateway : router.hasGateway)
    (hmode : agent.settings.mode = .dvrSnat) : Obeys w routers (bindChosen router agent) := by
  intro c hs hrouters
  rw [bind_chosen_store]
  refine ⟨.refl _, ?_⟩
  subst hrouters
  have hwrites := Transaction.bind_snat_writes (f := .store) hs hrouter hdistributed hgateway hmode
  rwa [Store.commit_map_error] at hwrites

theorem schedule_snat_obeys {router : Router}
    (hrouter : w.brings router ∨ ∃ id, routers.get? id = some router) :
    Obeys w routers (scheduleSnat router) := by
  unfold scheduleSnat
  cases hgateway : router.hasGateway with
  | false => exact .pure _
  | true =>
      refine (Obeys.ask _).bind fun active => .ite (.pure _) ?_
      refine (choose_one_obeys _).bind_of fun c chosen c' _ hs' hrouters hrun => ?_
      cases chosen with
      | none => exact .refl c'
      | some agent =>
          -- the agent was chosen among those that may translate for the router
          obtain ⟨hdistributed, hmode⟩ := distributed_of_candidate (choose_one_mem hrun)
          exact bind_chosen_obeys hrouter hdistributed hgateway hmode c' hs' hrouters

theorem release_snat_obeys (router : String) (scope : Option String) :
    Obeys w routers (releaseSnat router scope) :=
  .commit fun _ hs => Transaction.delete_snat_writes hs router scope

theorem release_snat_node_obeys (ctx : Context) (router : String) (scope : Option String) :
    Obeys w routers (releaseSnatNode ctx router scope) := fun c hs hrouters =>
  ⟨.refl _, hrouters ▸
    Transaction.release_snat_node_writes hs c.directory ctx router scope⟩

/-- A release that finds nothing leaves everything as it was. -/
theorem release_snat_node_none {ctx : Context} {router : String} {scope : Option String}
    {c c' : Controller} (hs : c.store.Sound)
    (h : (releaseSnatNode ctx router scope).runOn c = (.ok none, c')) :
    c' = c ∧ c.store.snatIn? router scope = none := by
  rw [run_on_release_snat_node_sound hs] at h
  cases hrow : c.store.snatIn? router scope with
  | none =>
      rw [hrow] at h
      cases h
      exact ⟨rfl, rfl⟩
  | some b =>
      rw [hrow] at h
      simp only at h
      rcases hneeds : c.directory.needsRouter ctx b.host router none with e | _ | _ <;>
        rw [hneeds] at h <;> cases h

theorem notify_node_obeys (router : String) (node : NodeOutcome) :
    Obeys w routers (notifyNode router node) := by
  cases node with
  | kept host => exact .pure ()
  | removed host => exact .notify _

theorem notify_released_obeys (router : String) (node : NodeOutcome) :
    Obeys w routers (notifyReleased router node) := by
  cases node <;> exact .notify _

theorem release_node_obeys (hdrops : w.dropsHosts) (ctx : Context) (router : String)
    (b : SnatBinding) : Obeys w routers (releaseNode ctx router b) := fun c _ _ =>
  ⟨.refl _, Store.writes_of_apply fun a s' h => by
    rw [Transaction.release_node_eq] at h
    rcases hneeds : c.directory.needsRouter ctx b.host router none with e | _ | _ <;>
      rw [hneeds] at h <;> cases h
    · exact .single (.dropHost hdrops _)
    · exact .refl⟩

/-! ## Explicit assignment -/

theorem unschedule_obeys (ctx : Context) (router : String) (agents : List String) :
    Obeys w routers (unschedule ctx router agents) := by
  refine (known_router_obeys router).bind_of fun c r c' _ hs' hrouters hrun => ?_
  obtain ⟨rfl, hknown⟩ := known_router_ok hrun
  cases hdistributed : r.distributed with
  | false =>
      refine unbind_hosts_moves c' router agents fun s agent => .dropOther hknown ?_
      simp [hdistributed]
  | true =>
      refine Obeys.bind (release_snat_node_obeys ctx router none) (fun release => ?_) c' hs'
        hrouters
      cases release with
      | none => exact .pure ()
      | some release => exact notify_node_obeys router release.node

theorem bind_router_obeys {agent : Agent} {router : Router} (hrouter : w.brings router) :
    Obeys w routers (bindRouter agent router) := by
  unfold bindRouter
  split
  next h =>
    simp only [translates, Bool.and_eq_true, decide_eq_true_eq] at h
    obtain ⟨⟨hdistributed, hgateway⟩, hmode⟩ := h
    exact .commit fun _ hs =>
      Transaction.bind_snat_writes hs (.inl hrouter) hdistributed hgateway hmode
  next => exact bind_host_obeys agent router

/-- Removing a router drops the host binding alone only where the agent does not translate. -/
theorem remove_router_obeys (ctx : Context) (agent router : String) :
    Obeys w routers (removeRouter ctx agent router) := by
  refine (known_router_obeys router).bind_of fun c r c' _ hs' hrouters hrun => ?_
  obtain ⟨rfl, hknown⟩ := known_router_ok hrun
  by_cases htranslates : r.hasGateway && r.distributed
  · rw [if_pos htranslates]
    refine (release_snat_node_obeys ctx router (some agent)).bind_of
      (fun c₀ release c₁ hs₀ hs₁ hrouters₁ hrun => ?_) c' hs' rfl
    cases release with
    | some release => exact notify_released_obeys router release.node c₁ hs₁ rfl
    | none =>
        -- nothing was released, so a SNAT binding of the router names another agent
        obtain ⟨rfl, hrow⟩ := release_snat_node_none hs₀ hrun
        refine remove_host_moves hs₁ agent router (.dropOther (hrouters₁ ▸ hknown) ?_)
        intro _ _ b hb hagent
        simp [Store.snatIn?, hb, hagent] at hrow
  · rw [if_neg htranslates]
    refine remove_host_moves hs' agent router (.dropOther hknown ?_)
    intro hdistributed hgateway
    simp [hdistributed, hgateway] at htranslates

/-! ## Reconciliation -/

theorem reconcile_gateway_obeys {router : Router}
    (hrouter : w.brings router ∨ ∃ id, routers.get? id = some router) :
    Obeys w routers (reconcileGateway router) := by
  refine (schedule_snat_obeys hrouter).bind fun outcome => ?_
  cases outcome with
  | bound agent => exact .notify _
  | noGateway => exact .pure ()
  | noActiveAgents => exact .pure ()
  | noCandidates => exact .pure ()
  | alreadyBound => exact .pure ()

theorem reconcile_no_gateway_obeys (ctx : Context) (router : Router) (id : String) :
    Obeys w routers (reconcileNoGateway ctx router id) := by
  refine (release_snat_node_obeys ctx id none).bind fun release => ?_
  rcases release with _ | ⟨b, host | host⟩
  · exact .pure ()
  · exact .notify _
  · exact .notify _

theorem reconcile_obeys (ctx : Context) (router : String) :
    Obeys w routers (reconcile ctx router) := by
  refine (known_router_obeys router).bind_of fun c r c' _ hs' hrouters hrun => ?_
  obtain ⟨rfl, hknown⟩ := known_router_ok hrun
  refine Obeys.ite ((Obeys.consult _).bind fun row => ?_) (.pure ()) c' hs' rfl
  cases r.hasGateway <;> cases row
  · exact .pure ()
  · exact reconcile_no_gateway_obeys ctx r router
  · exact reconcile_gateway_obeys (.inr ⟨router, hknown⟩)
  · exact .pure ()

theorem purge_obeys (agent : String) : Obeys w routers (purge agent) := by
  refine .commit fun s _ => Store.writes_of_apply fun counts s' h => ?_
  rw [Transaction.inRequest, Transaction.map_error_apply] at h
  cases hpurge : Transaction.deleteAgent agent s with
  | error e =>
      rw [hpurge] at h
      cases h
  | ok answer =>
      rw [hpurge] at h
      cases h
      exact .single (.purge agent counts hpurge)

/-! ## Port events -/

theorem refresh_arp_obeys (port : Port) (action : ArpAction) :
    Obeys w routers (refreshArp port action) :=
  .ite (.notify _) (.pure ())

theorem port_created_obeys (ctx : Context) (port : Port) :
    Obeys w routers (portCreated ctx port) :=
  .ite ((bring_routers_obeys ctx port).bind fun _ => refresh_arp_obeys port .add) (.pure ())

theorem port_deleted_obeys (ctx : Context) (port : Port) (removals : List Removal) :
    Obeys w routers (portDeleted ctx port removals) :=
  (refresh_arp_obeys port .del).bind fun _ =>
    .for_m fun r => remove_router_obeys ctx.elevated r.agent r.router

theorem departed_obeys (ctx : Context) (original : Port) :
    Obeys w routers (departed ctx original) :=
  (tear_down_obeys ctx original.id original.host).bind fun removals =>
    .ite (port_deleted_obeys ctx original removals) (.pure ())

theorem arrived_obeys (ctx : Context) (original port : Port) :
    Obeys w routers (arrived ctx original port) :=
  .ite ((bring_routers_obeys ctx port).bind fun _ => refresh_arp_obeys port .add)
    (.ite (refresh_arp_obeys port .add) (.pure ()))

theorem port_updated_obeys (ctx : Context) (original port : Port) :
    Obeys w routers (portUpdated ctx original port) :=
  .ite ((departed_obeys ctx original).bind fun _ => .ite (arrived_obeys ctx original port)
    (.pure ())) (arrived_obeys ctx original port)

end Controller

end RouterBinding
