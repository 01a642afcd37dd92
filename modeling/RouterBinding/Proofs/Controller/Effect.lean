import RouterBinding.Controller.Assignment
import RouterBinding.Controller.Reconcile
import RouterBinding.Proofs.Binding.Effect

/-!
# What the controller's transactions do to the bindings

The equations of `RouterBinding.Proofs.Binding.Effect` for the transactions that the controller
composes, and for the requests that run a single one.
-/

namespace RouterBinding

namespace Store

/-- The store with the SNAT binding of a router to an agent, and with the host binding. -/
def withSnat (s : Store) (router : Router) (agent : Agent) : Store :=
  (s.putSnat ⟨router.id, agent.id, agent.host, router.gatewayPort⟩).withHost ⟨router.id, agent.id⟩

/-- The store without the SNAT binding of a router and the host binding of its agent. -/
def withoutSnatNode (s : Store) (b : SnatBinding) : Store :=
  (s.dropSnat b.router).dropHost ⟨b.router, b.agent⟩

theorem snat_row_with_snat (s : Store) (router : Router) (agent : Agent) (id : String) :
    (s.withSnat router agent).snatRow? id =
      if router.id = id then some ⟨router.id, agent.id, agent.host, router.gatewayPort⟩
      else s.snatRow? id := by
  rw [withSnat, snat_row_with_host, snat_row_put_snat]

/-- The row that is written for a router. -/
theorem get_snat_with_snat (s : Store) (router : Router) (agent : Agent) :
    (s.withSnat router agent).snat.get? router.id =
      some (SnatBinding.toText ⟨router.id, agent.id, agent.host, router.gatewayPort⟩) := by
  rw [withSnat, snat_with_host]
  exact Table.get_insert_self _ _ _

theorem contains_with_snat (s : Store) (router : Router) (agent : Agent) :
    (s.withSnat router agent).snat.contains router.id = true := by
  rw [Table.contains, get_snat_with_snat]
  rfl

theorem snat_of_with_snat (s : Store) (router : Router) (agent : Agent) :
    (s.withSnat router agent).snatOf? router.id =
      .ok (some ⟨router.id, agent.id, agent.host, router.gatewayPort⟩) := by
  rw [snatOf?, row?, get_snat_with_snat]
  simp [decoded, SnatBinding.of_text_to_text, Except.map]

theorem is_bound_with_snat (s : Store) (router : Router) (agent : Agent) (id other : String) :
    (s.withSnat router agent).isBound id other =
      (decide ((⟨router.id, agent.id⟩ : HostBinding) = ⟨id, other⟩) || s.isBound id other) := by
  rw [withSnat, is_bound_with_host, is_bound_put_snat]

theorem snat_row_without_snat_node (s : Store) (b : SnatBinding) (id : String) :
    (s.withoutSnatNode b).snatRow? id = if b.router = id then none else s.snatRow? id := by
  rw [withoutSnatNode, snat_row_drop_host, snat_row_drop_snat]

theorem is_bound_without_snat_node (s : Store) (b : SnatBinding) (id other : String) :
    (s.withoutSnatNode b).isBound id other =
      (!decide ((⟨b.router, b.agent⟩ : HostBinding) = ⟨id, other⟩) && s.isBound id other) := by
  rw [withoutSnatNode, is_bound_drop_host, is_bound_drop_snat]

namespace Sound

variable {s : Store}

theorem with_snat (hs : s.Sound) (router : Router) (agent : Agent) :
    (s.withSnat router agent).Sound :=
  (hs.put_snat _).with_host _

theorem without_snat_node (hs : s.Sound) (b : SnatBinding) : (s.withoutSnatNode b).Sound :=
  (hs.drop_snat _).drop_host _

end Sound

end Store

namespace Transaction

variable {s : Store}

/-- A row under the id of a router stands against a SNAT binding, whatever it holds; otherwise the
router is bound. -/
theorem bind_snat_eq (router : Router) (agent : Agent) (s : Store) :
    bindSnat router agent s =
      if s.snat.contains router.id then .error (.duplicateSnat router.id)
      else .ok ((), s.withSnat router agent) := by
  rw [bindSnat, bind_apply, insert_snat_apply]
  by_cases h : s.snat.contains router.id
  · simp [SnatBinding.key, h]
  · simp only [SnatBinding.key, h, Bool.false_eq_true, if_false]
    rw [bind_apply, insert_host_eq]
    rfl

/-- A router that has a SNAT binding gets no other, and nothing changes; otherwise it is bound. -/
theorem bind_snat_sound (hs : s.Sound) (router : Router) (agent : Agent) :
    bindSnat router agent s =
      if (s.snatRow? router.id).isSome then .error (.duplicateSnat router.id)
      else .ok ((), s.withSnat router agent) := by
  rw [bind_snat_eq, hs.contains_snat]

/-- The host binding goes unless the directory finds the router needed or does not answer. -/
theorem release_node_eq (d : Directory) (ctx : Context) (router : String) (b : SnatBinding)
    (s : Store) :
    releaseNode d ctx router b s =
      match d.needsRouter ctx b.host router none with
      | .ok true => .ok (.kept b.host, s)
      | .ok false => .ok (.removed b.host, s.dropHost ⟨router, b.agent⟩)
      | .error e => .error (Action.ofFault e) := by
  rw [releaseNode, bind_apply]
  unfold asking
  rcases d.needsRouter ctx b.host router none with e | _ | _ <;> rfl

/-- The SNAT binding goes with the host binding, or alone if the router is needed, over stores of
any content. -/
theorem release_snat_node_eq (d : Directory) (ctx : Context) (router : String)
    (scope : Option String) (s : Store) :
    releaseSnatNode d ctx router scope s =
      match s.snatScoped? router scope with
      | .error e => .error (.store e)
      | .ok none => .ok (none, s)
      | .ok (some b) =>
        match d.needsRouter ctx b.host router none with
        | .ok true => .ok (some ⟨b, .kept b.host⟩, s.dropSnat router)
        | .ok false =>
          .ok (some ⟨b, .removed b.host⟩, (s.dropSnat router).dropHost ⟨router, b.agent⟩)
        | .error e => .error (Action.ofFault e) := by
  rw [releaseSnatNode, bind_apply, inRequest, map_error_apply, delete_snat_eq]
  rcases s.snatScoped? router scope with e | _ | b
  · rfl
  · rfl
  · simp only [map_error_ok]
    rw [bind_apply, release_node_eq]
    rcases d.needsRouter ctx b.host router none with e | _ | _ <;> rfl

/-- In a sound store the row that is released names the router. -/
theorem release_snat_node_sound (hs : s.Sound) (d : Directory) (ctx : Context) (router : String)
    (scope : Option String) :
    releaseSnatNode d ctx router scope s =
      match s.snatIn? router scope with
      | none => .ok (none, s)
      | some b =>
        match d.needsRouter ctx b.host router none with
        | .ok true => .ok (some ⟨b, .kept b.host⟩, s.dropSnat router)
        | .ok false => .ok (some ⟨b, .removed b.host⟩, s.withoutSnatNode b)
        | .error e => .error (Action.ofFault e) := by
  rw [release_snat_node_eq, hs.snat_scoped]
  cases hrow : s.snatIn? router scope with
  | none => rfl
  | some b =>
      obtain rfl := hs.router_of_snat_row (Store.snat_in_some hrow)
      rfl

/-- Unbinding a router from some agents cannot fail. -/
theorem unbind_hosts_eq (router : String) (agents : List String) (s : Store) :
    (agents.forM fun agent => do
      let _ ← (deleteHost ⟨router, agent⟩).inRequest : Transaction ControllerError Unit) s =
      .ok ((), agents.foldl (fun s agent => s.dropHost ⟨router, agent⟩) s) := by
  induction agents generalizing s with
  | nil => rfl
  | cons agent agents ih => exact ih (s.dropHost ⟨router, agent⟩)

end Transaction

namespace Action

variable {α : Type}

/-- A change of the store that is a whole request. -/
theorem run_on_commit_in_request (t : Transaction StoreError α) (c : Controller) :
    (commit t.inRequest).runOn c =
      ((c.store.commit t).1.mapError .store, { c with store := (c.store.commit t).2 }) := by
  rw [run_on_commit, Transaction.inRequest, Store.commit_map_error]

/-- Dropping a host binding answers whether it was there. -/
theorem run_on_delete_host (b : HostBinding) (c : Controller) :
    (commit (Transaction.deleteHost b).inRequest).runOn c =
      (.ok (c.store.isBound b.router b.agent), { c with store := c.store.dropHost b }) := rfl

end Action

namespace Controller

open RouterBinding.Action

/-- A client that finds a row under the id of the router leaves everything as it was, the host
binding of its own agent included; any other client binds its agent. -/
theorem bind_chosen_eq (router : Router) (agent : Agent) (c : Controller) :
    (bindChosen router agent).runOn c =
      if c.store.snat.contains router.id then (.ok .alreadyBound, c)
      else (.ok (.bound agent), { c with store := c.store.withSnat router agent }) := by
  show bindChosen router agent c = _
  unfold bindChosen Store.commit
  rw [Transaction.bind_snat_eq]
  cases c.store.snat.contains router.id <;> rfl

/-- How a release ends, whatever the store holds and whichever services are out. -/
theorem run_on_release_snat_node_eq (ctx : Context) (router : String) (scope : Option String)
    (c : Controller) :
    (releaseSnatNode ctx router scope).runOn c =
      match c.store.snatScoped? router scope with
      | .error e => (.error (.store e), c)
      | .ok none => (.ok none, c)
      | .ok (some b) =>
        match c.directory.needsRouter ctx b.host router none with
        | .ok true =>
          (.ok (some ⟨b, .kept b.host⟩), { c with store := c.store.dropSnat router })
        | .ok false =>
          (.ok (some ⟨b, .removed b.host⟩),
            { c with store := (c.store.dropSnat router).dropHost ⟨router, b.agent⟩ })
        | .error e => (.error (ofFault e), c) := by
  show (commit (Transaction.releaseSnatNode c.directory ctx router scope)).runOn c = _
  rw [run_on_commit]
  unfold Store.commit
  rw [Transaction.release_snat_node_eq]
  rcases c.store.snatScoped? router scope with e | _ | b
  · rfl
  · rfl
  · simp only
    rcases c.directory.needsRouter ctx b.host router none with e | _ | _ <;> rfl

/-- In a sound store the row that is released names the router. -/
theorem run_on_release_snat_node_sound {c : Controller} (hs : c.store.Sound) (ctx : Context)
    (router : String) (scope : Option String) :
    (releaseSnatNode ctx router scope).runOn c =
      match c.store.snatIn? router scope with
      | none => (.ok none, c)
      | some b =>
        match c.directory.needsRouter ctx b.host router none with
        | .ok true =>
          (.ok (some ⟨b, .kept b.host⟩), { c with store := c.store.dropSnat router })
        | .ok false =>
          (.ok (some ⟨b, .removed b.host⟩), { c with store := c.store.withoutSnatNode b })
        | .error e => (.error (ofFault e), c) := by
  rw [run_on_release_snat_node_eq, hs.snat_scoped]
  cases hrow : c.store.snatIn? router scope with
  | none => rfl
  | some b =>
      obtain rfl := hs.router_of_snat_row (Store.snat_in_some hrow)
      rfl

/-- Unbinding drops the host binding whether or not the agent can be told, and only an outage keeps
it from ending well. -/
theorem run_on_remove_host (agent router : String) (c : Controller) :
    ∃ answer told, (removeHost agent router).runOn c =
        (answer, { c with
          store := c.store.dropHost ⟨router, agent⟩
          sent := c.sent ++ told }) ∧
      (answer = .ok () ∨ Service.agent ∈ c.directory.outages) := by
  rw [removeHost, run_on_bind, run_on_delete_host]
  simp only
  split
  · rw [run_on_bind, run_on_ask]
    rcases hagent : c.directory.agent? agent with e | _ | a
    · have hout : Service.agent ∈ c.directory.outages := by
        by_contra hup
        rw [Directory.agent?, Directory.ask, if_neg hup] at hagent
        cases hagent
      exact ⟨_, [], by rw [List.append_nil]; rfl, .inr hout⟩
    · exact ⟨_, [], by rw [List.append_nil]; rfl, .inl rfl⟩
    · exact ⟨_, [.routerRemoved router a.host], rfl, .inl rfl⟩
  · exact ⟨_, [], by rw [List.append_nil]; rfl, .inl rfl⟩

/-- Placing a router with one candidate binds it to the agent that is chosen, if any, over stores of
any content. -/
theorem run_on_place_one (router : String) (agent : Agent) (c : Controller) :
    (place router [agent]).runOn c =
      match c.store.leastLoaded? router ([agent].filter (·.isActive)) with
      | .error e => (.error (.store e), c)
      | .ok none => (.ok none, c)
      | .ok (some id) => (.ok (some id), { c with store := c.store.withHost ⟨router, id⟩ }) := by
  have hpool : pool [agent] = pure ([agent].filter (·.isActive)) := rfl
  rw [place, hpool, run_on_bind, run_on_pure]
  simp only
  rw [run_on_bind, run_on_consult]
  rcases c.store.leastLoaded? router ([agent].filter (·.isActive)) with e | _ | id
  · rfl
  · rfl
  · have hcommit : (Transaction.insertHost ⟨router, id⟩).placing router id c.store =
        .ok (!c.store.isBound router id, c.store.withHost ⟨router, id⟩) := by
      rw [Transaction.placing, Transaction.map_error_apply, Transaction.insert_host_eq]
      rfl
    simp only [map_error_ok]
    rw [run_on_bind, run_on_commit, Store.commit_of_ok hcommit]
    rfl

end Controller

end RouterBinding
