import Mathlib.Data.Prod.Lex
import RouterBinding.Proofs.Binding.Refinement
import RouterBinding.Proofs.Controller.Elsewhere
import RouterBinding.Proofs.Snat.Scheduling

/-!
# The agent with the fewest routers

Where a router goes is said here without any listing: `Store.routerCount` counts the host bindings
of an agent as a set, `Controller.Available` says which agents the router may go to, and
`Controller.Chosen` which of them is the first by count and id. `place_placed` and `place_none` say
that placing agrees with this, over every sound store: the router is added on the chosen agent if
there is one, and nothing changes otherwise.
-/

namespace RouterBinding

namespace Store

/-! ## The first of some ranked agents -/

/-- An agent goes before another as pairs are ordered, the number of its routers first. -/
theorem before_iff {a b : Nat × String} : before a b ↔ toLex a < toLex b := by
  rw [before, Prod.Lex.lt_iff]
  simp

theorem first_eq_none_iff {agents : List (Nat × String)} : first agents = none ↔ agents = [] := by
  cases agents with
  | nil => simp [first]
  | cons a rest =>
      rw [first]
      cases first rest with
      | none => simp
      | some b => by_cases h : before b a <;> simp [h]

/-- None of the ranked agents goes before the first one. -/
theorem first_le {agents : List (Nat × String)} {a : Nat × String} (h : first agents = some a) :
    ∀ b ∈ agents, toLex a ≤ toLex b := by
  induction agents generalizing a with
  | nil => cases h
  | cons head rest ih =>
      rw [first] at h
      rw [List.forall_mem_cons]
      cases hrest : first rest with
      | none =>
          rw [hrest] at h
          cases h
          simp [first_eq_none_iff.1 hrest]
      | some b =>
          rw [hrest] at h
          simp only at h
          split at h
          next hbefore =>
            cases h
            exact ⟨(before_iff.1 hbefore).le, ih hrest⟩
          next hbefore =>
            cases h
            have hle : toLex head ≤ toLex b := not_lt.1 fun hlt => hbefore (before_iff.2 hlt)
            exact ⟨le_rfl, fun c hc => hle.trans (ih hrest c hc)⟩

/-! ## How many routers an agent has -/

/-- The number of routers bound to an agent, counted over the set of host bindings. -/
noncomputable def routerCount (s : Store) (agent : String) : Nat :=
  {b ∈ s.bindings.hosts | b.agent = agent}.ncard

namespace Sound

variable {s : Store}

theorem finite_hosts (hs : s.Sound) : s.bindings.hosts.Finite := by
  obtain ⟨bs, -, hmem⟩ := hs.host_bindings
  exact bs.finite_toSet.subset fun b hb => (hmem b).2 hb

/-- The load of an agent is the number of its routers. -/
theorem load_eq (hs : s.Sound) (agent : String) : s.load agent = .ok (s.routerCount agent) := by
  obtain ⟨bs, hbs, hmem, hnodup⟩ := hs.hosts_of_agent_nodup agent
  have hset : {b ∈ s.bindings.hosts | b.agent = agent} = ↑bs.toFinset := by
    ext b
    rw [List.coe_toFinset]
    exact and_comm.trans (hmem b).symm
  rw [load, hbs, routerCount, hset, Set.ncard_coe_finset, List.toFinset_card_of_nodup hnodup]
  rfl

/-- Of a pool exactly the agents are ranked that the router is not bound to. -/
theorem ranked_eq (hs : s.Sound) (router : String) (pool : List Agent) :
    s.ranked router pool = .ok ((pool.filter fun a => !s.isBound router a.id).map fun a =>
      (s.routerCount a.id, a.id)) := by
  obtain ⟨bound, hbound, hmem⟩ := hs.hosts_of_router router
  have hfree : (fun a : Agent => bound.all fun b => b.agent ≠ a.id) =
      fun a => !s.isBound router a.id := by
    funext a
    rw [Bool.eq_iff_iff, List.all_eq_true]
    constructor
    · intro hall
      cases hhost : s.isBound router a.id with
      | false => rfl
      | true => simpa using hall ⟨router, a.id⟩ ((hmem _).2 ⟨rfl, hhost⟩)
    · intro hhost b hb
      obtain ⟨hrouter, hbinds⟩ := (hmem b).1 hb
      have hne : b.agent ≠ a.id := fun hagent => by
        rw [hrouter, hagent] at hbinds
        simp [hbinds] at hhost
      simpa using hne
  have hload : (fun a : Agent =>
      (do return (← s.load a.id, a.id) : Except StoreError (Nat × String))) =
        fun a => pure (s.routerCount a.id, a.id) := by
    funext a
    rw [hs.load_eq]
    rfl
  rw [ranked, hbound, hload]
  show (List.mapM _ (pool.filter fun a : Agent => bound.all fun b => b.agent ≠ a.id) :
    Except StoreError _) = _
  rw [List.mapM_pure, hfree]
  rfl

/-- A host binding that is added counts for its agent and no other. -/
theorem router_count_put_host (hs : s.Sound) {b : HostBinding} (hnew : b ∉ s.bindings.hosts)
    (agent : String) :
    (s.putHost b).routerCount agent =
      s.routerCount agent + if b.agent = agent then 1 else 0 := by
  have hhosts : (s.putHost b).bindings.hosts = insert b s.bindings.hosts := by
    have hfree : ¬s.isBound b.router b.agent = true := hnew
    have hwith : s.withHost b = s.putHost b := if_neg hfree
    rw [← hwith, bindings_with_host]
  have hfinite : {c ∈ s.bindings.hosts | c.agent = agent}.Finite :=
    hs.finite_hosts.subset fun c hc => hc.1
  rw [routerCount, routerCount, hhosts]
  by_cases hagent : b.agent = agent
  · have hset : {c ∈ insert b s.bindings.hosts | c.agent = agent} =
        insert b {c ∈ s.bindings.hosts | c.agent = agent} := Set.insert_inter_of_mem hagent
    rw [hset, Set.ncard_insert_of_notMem (fun h => hnew h.1) hfinite, if_pos hagent]
  · have hset : {c ∈ insert b s.bindings.hosts | c.agent = agent} =
        {c ∈ s.bindings.hosts | c.agent = agent} := Set.insert_inter_of_notMem hagent
    rw [hset, if_neg hagent, Nat.add_zero]

end Sound

end Store

namespace Controller

open RouterBinding.Action

/-! ## Where a router goes -/

/-- The agents of a pool: the candidates, or all agents of the directory if there are none. -/
def InPool (c : Controller) (candidates : List Agent) (a : Agent) : Prop :=
  if candidates = [] then a ∈ c.directory.agents.values else a ∈ candidates

/-- An active agent of the pool that a router is not bound to. -/
structure Available (c : Controller) (router : String) (candidates : List Agent) (a : Agent) :
    Prop where
  listed : c.InPool candidates a
  active : a.isActive
  unbound : ⟨router, a.id⟩ ∉ c.store.bindings.hosts

/-- The id of an available agent that is the least by the number of its routers, and of equal ones
by itself. -/
structure Chosen (c : Controller) (router : String) (candidates : List Agent) (id : String) :
    Prop where
  available : ∃ a, c.Available router candidates a ∧ a.id = id
  least : ∀ a, c.Available router candidates a →
    toLex (c.store.routerCount id, id) ≤ toLex (c.store.routerCount a.id, a.id)

variable {c : Controller} {router : String} {candidates : List Agent}

/-- The agents of a pool can be asked for. -/
def PoolAnswers (c : Controller) (candidates : List Agent) : Prop :=
  candidates = [] → Service.agents ∉ c.directory.outages

/-- The pool is made of its active agents. -/
theorem run_on_pool (hpool : c.PoolAnswers candidates) :
    ∃ agents, (pool candidates).runOn c = (.ok agents, c) ∧
      ∀ a, a ∈ agents ↔ c.InPool candidates a ∧ a.isActive := by
  unfold pool InPool
  cases candidates with
  | nil =>
      refine ⟨c.directory.agents.values.filter (·.isActive), ?_, fun a => ?_⟩
      · show (ask _).runOn c = _
        rw [run_on_ask, Directory.active_agents_ok (hpool rfl)]
        rfl
      · rw [List.mem_filter, if_pos rfl]
  | cons head rest =>
      refine ⟨(head :: rest).filter (·.isActive), rfl, fun a => ?_⟩
      rw [List.mem_filter, if_neg (List.cons_ne_nil _ _)]

/-- Placing asks for the pool, looks for the agent and adds the host binding. -/
theorem run_on_place (hs : c.store.Sound) {agents : List Agent}
    (hpool : (pool candidates).runOn c = (.ok agents, c)) :
    (place router candidates).runOn c =
      match Store.first ((agents.filter fun a => !c.store.isBound router a.id).map fun a =>
        (c.store.routerCount a.id, a.id)) with
      | none => (.ok none, c)
      | some a => (.ok (some a.2), { c with store := c.store.withHost ⟨router, a.2⟩ }) := by
  rw [place, run_on_bind, hpool]
  simp only
  rw [run_on_bind, run_on_consult, Store.leastLoaded?, hs.ranked_eq]
  simp only [Except.map, map_error_ok]
  cases Store.first ((agents.filter fun a => !c.store.isBound router a.id).map fun a =>
      (c.store.routerCount a.id, a.id)) with
  | none => rfl
  | some a =>
      have hcommit : (Transaction.insertHost ⟨router, a.2⟩).placing router a.2 c.store =
          .ok (!c.store.isBound router a.2, c.store.withHost ⟨router, a.2⟩) := by
        rw [Transaction.placing, Transaction.map_error_apply, Transaction.insert_host_eq]
        rfl
      simp only [Option.map_some]
      rw [run_on_bind, run_on_commit, Store.commit_of_ok hcommit]
      rfl

/-- The agents that are ranked are the available ones. -/
theorem mem_ranked_iff {agents : List Agent}
    (hmem : ∀ a, a ∈ agents ↔ c.InPool candidates a ∧ a.isActive) {a : Agent} :
    a ∈ agents.filter (fun a => !c.store.isBound router a.id) ↔
      c.Available router candidates a := by
  have hbound : (⟨router, a.id⟩ : HostBinding) ∉ c.store.bindings.hosts ↔
      (!c.store.isBound router a.id) = true := by
    show ¬c.store.isBound router a.id = true ↔ _
    simp
  rw [List.mem_filter, hmem, ← hbound]
  exact ⟨fun ⟨⟨hlisted, hactive⟩, hunbound⟩ => ⟨hlisted, hactive, hunbound⟩,
    fun ⟨hlisted, hactive, hunbound⟩ => ⟨⟨hlisted, hactive⟩, hunbound⟩⟩

/-- A router for which an agent is available is added on the chosen one. -/
theorem place_placed (hs : c.store.Sound) (hpool : c.PoolAnswers candidates)
    (h : ∃ a, c.Available router candidates a) :
    ∃ id, c.Chosen router candidates id ∧ (place router candidates).runOn c =
      (.ok (some id), { c with store := c.store.putHost ⟨router, id⟩ }) := by
  obtain ⟨agents, hagents, hmem⟩ := run_on_pool hpool
  rw [run_on_place hs hagents]
  cases hfirst : Store.first ((agents.filter fun a => !c.store.isBound router a.id).map fun a =>
      (c.store.routerCount a.id, a.id)) with
  | none =>
      obtain ⟨a, ha⟩ := h
      rw [Store.first_eq_none_iff, List.map_eq_nil_iff] at hfirst
      exact absurd ((mem_ranked_iff hmem).2 ha) (hfirst ▸ List.not_mem_nil)
  | some ranked =>
      obtain ⟨a, ha, rfl⟩ := List.mem_map.1 (Store.mem_of_first hfirst)
      have havailable := (mem_ranked_iff hmem).1 ha
      have hfree : ¬c.store.isBound router a.id = true := havailable.unbound
      refine ⟨a.id, ⟨⟨a, havailable, rfl⟩, fun other hother => ?_⟩, ?_⟩
      · exact Store.first_le hfirst _ (List.mem_map_of_mem ((mem_ranked_iff hmem).2 hother))
      · simp only [Store.withHost, if_neg hfree]

/-- A router for which no agent is available is placed nowhere. -/
theorem place_none (hs : c.store.Sound) (hpool : c.PoolAnswers candidates)
    (h : ¬∃ a, c.Available router candidates a) :
    (place router candidates).runOn c = (.ok none, c) := by
  obtain ⟨agents, hagents, hmem⟩ := run_on_pool hpool
  have hnil : agents.filter (fun a => !c.store.isBound router a.id) = [] :=
    List.eq_nil_iff_forall_not_mem.2 fun a ha => h ⟨a, (mem_ranked_iff hmem).1 ha⟩
  rw [run_on_place hs hagents, hnil]
  rfl

/-- While the directory does not list its agents nothing is placed without candidates. -/
theorem place_unanswered (hout : Service.agents ∈ c.directory.outages) (router : String) :
    (place router []).runOn c = (.error (ofFault (.unavailable .agents)), c) := by
  have hpool : (pool []).runOn c = (.error (ofFault (.unavailable .agents)), c) := by
    have hagents : c.directory.activeAgents = .error (.unavailable .agents) := if_pos hout
    show (ask _).runOn c = _
    rw [run_on_ask, hagents]
    rfl
  rw [place, run_on_bind, hpool]

end Controller

end RouterBinding
