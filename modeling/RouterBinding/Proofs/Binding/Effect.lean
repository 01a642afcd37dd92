import RouterBinding.Operator.Repair
import RouterBinding.Proofs.Binding.View

/-!
# What transactions do to the bindings

One equation for each transaction on a sound store says what it answers and which store it leaves,
in terms of the views of the store. Rows that do not decode cannot stand in the way there, so a
duplicate SNAT binding is the only thing that can fail (`insert_snat_sound`).
-/

namespace RouterBinding

@[simp] theorem map_error_ok {ε ε' α : Type} (f : ε → ε') (a : α) :
    (Except.ok a).mapError f = .ok a := rfl

@[simp] theorem map_error_error {ε ε' α : Type} (f : ε → ε') (e : ε) :
    (Except.error e : Except ε α).mapError f = .error (f e) := rfl

namespace Store

/-- The SNAT binding of a router, if it names the agent of the scope. -/
def snatIn? (s : Store) (router : String) (scope : Option String) : Option SnatBinding :=
  (s.snatRow? router).filter fun b => scope.all (· = b.agent)

/-- The same over a store of any content, where the row may not decode. -/
def snatScoped? (s : Store) (router : String) (scope : Option String) :
    Except StoreError (Option SnatBinding) :=
  (s.snatOf? router).map fun row => row.filter fun b => scope.all (· = b.agent)

theorem Sound.snat_scoped {s : Store} (hs : s.Sound) (router : String) (scope : Option String) :
    s.snatScoped? router scope = .ok (s.snatIn? router scope) := by
  rw [snatScoped?, hs.snat_of]
  rfl

/-- A release that is not scoped finds the row of the router as it is. -/
theorem snat_scoped_none (s : Store) (router : String) :
    s.snatScoped? router none = s.snatOf? router := by
  rw [snatScoped?]
  rcases s.snatOf? router with e | _ | b
  · rfl
  · rfl
  · simp [Except.map, Option.filter_some]

/-- The store with a host binding, which is left alone if it is there. -/
def withHost (s : Store) (b : HostBinding) : Store :=
  if s.isBound b.router b.agent then s else s.putHost b

theorem snat_in_some {s : Store} {router : String} {scope : Option String} {b : SnatBinding}
    (h : s.snatIn? router scope = some b) : s.snatRow? router = some b :=
  (Option.filter_eq_some_iff.1 h).1

@[simp] theorem snat_with_host (s : Store) (b : HostBinding) : (s.withHost b).snat = s.snat := by
  unfold withHost
  split <;> rfl

@[simp] theorem snat_row_with_host (s : Store) (b : HostBinding) (router : String) :
    (s.withHost b).snatRow? router = s.snatRow? router := by
  rw [snatRow?, snat_with_host, snatRow?]

/-- The rows under other keys stay as they are. -/
theorem get_hosts_with_host {s : Store} {b : HostBinding} {key : String} (h : key ≠ b.key) :
    (s.withHost b).hosts.get? key = s.hosts.get? key := by
  unfold withHost
  split
  · rfl
  · exact Table.get_insert_of_ne _ _ h.symm

theorem is_bound_with_host (s : Store) (b : HostBinding) (router agent : String) :
    (s.withHost b).isBound router agent =
      (decide (b = ⟨router, agent⟩) || s.isBound router agent) := by
  unfold withHost
  split
  next h =>
    by_cases hb : b = ⟨router, agent⟩
    · subst hb
      simp [h]
    · simp [hb]
  next => exact is_bound_put_host s b router agent

theorem Sound.with_host {s : Store} (hs : s.Sound) (b : HostBinding) : (s.withHost b).Sound := by
  unfold withHost
  split
  · exact hs
  · exact hs.put_host b

theorem commit_map_error {ε ε' α : Type} (s : Store) (t : Transaction ε α) (f : ε → ε') :
    s.commit (t.mapError f) = ((s.commit t).1.mapError f, (s.commit t).2) := by
  unfold commit
  rw [Transaction.map_error_apply]
  cases t s <;> rfl

end Store

namespace Transaction

variable {s : Store}

theorem insert_snat_sound (hs : s.Sound) (b : SnatBinding) :
    insertSnat b s =
      if (s.snatRow? b.router).isSome then .error (.duplicateSnat b.router)
      else .ok ((), s.putSnat b) := by
  rw [insert_snat_apply, hs.contains_snat]
  rfl

/-- A release looks at one row, and drops it exactly if it names the agent of the scope. -/
theorem delete_snat_eq (router : String) (scope : Option String) (s : Store) :
    deleteSnat router scope s =
      match s.snatScoped? router scope with
      | .error e => .error e
      | .ok none => .ok (none, s)
      | .ok (some b) => .ok (some b, s.dropSnat router) := by
  rw [delete_snat_apply, Store.snatScoped?]
  rcases s.snatOf? router with e | _ | b
  · rfl
  · rfl
  · cases scope with
    | none => rfl
    | some agent =>
        by_cases h : agent = b.agent <;> simp [h, Except.map, Option.filter_some, Store.dropSnat]

/-- A release drops the row exactly if it names the agent of the scope, and answers it. -/
theorem delete_snat_sound (hs : s.Sound) (router : String) (scope : Option String) :
    deleteSnat router scope s =
      match s.snatIn? router scope with
      | none => .ok (none, s)
      | some b => .ok (some b, s.dropSnat router) := by
  rw [delete_snat_eq, hs.snat_scoped]
  cases s.snatIn? router scope <;> rfl

theorem insert_host_eq (b : HostBinding) (s : Store) :
    insertHost b s = .ok (!s.isBound b.router b.agent, s.withHost b) := by
  have hkey : s.hosts.contains b.key = s.isBound b.router b.agent := rfl
  rw [insert_host_apply, hkey]
  unfold Store.withHost
  by_cases h : s.isBound b.router b.agent
  · simp [h]
  · simp [h, Store.putHost]

/-- A purge erases the rows found to name the agent, and counts them. -/
theorem delete_agent_of_keys {agent : String} {snat hosts : List String}
    (hsnat : keysWhere SnatBinding.ofText? s.snat (fun b => b.agent = agent) = .ok snat)
    (hhosts : keysWhere HostBinding.ofText? s.hosts (fun b => b.agent = agent) = .ok hosts) :
    deleteAgent agent s = .ok ((snat.length, hosts.length),
      ⟨snat.foldl Table.erase s.snat, hosts.foldl Table.erase s.hosts⟩) := by
  rw [deleteAgent, bind_apply, query_apply, hsnat]
  simp only [Except.map]
  rw [bind_apply, query_apply, hhosts]
  rfl

/-- A purge drops the bindings of the agent and keeps those of all others. -/
theorem delete_agent_sound (hs : s.Sound) (agent : String) :
    ∃ counts s', deleteAgent agent s = .ok (counts, s') ∧ s'.Sound ∧
      (∀ router, s'.snatRow? router = (s.snatRow? router).filter (·.agent ≠ agent)) ∧
      ∀ router other, s'.isBound router other = (other ≠ agent && s.isBound router other) := by
  obtain ⟨snat, hsnat, hsnat_written, hsnat_get⟩ :=
    hs.snat.drop_where SnatBinding.of_text_to_text fun b => b.agent = agent
  obtain ⟨hosts, hhosts, hhosts_written, hhosts_get⟩ :=
    hs.hosts.drop_where HostBinding.of_text_to_text fun b => b.agent = agent
  refine ⟨(snat.length, hosts.length),
    ⟨snat.foldl Table.erase s.snat, hosts.foldl Table.erase s.hosts⟩,
    delete_agent_of_keys hsnat hhosts, ⟨hsnat_written, hhosts_written⟩, fun router => ?_,
    fun router other => ?_⟩
  · unfold Store.snatRow?
    rw [hsnat_get]
    cases hrow : (s.snat.get? router).bind SnatBinding.ofText? with
    | none => simp [hrow]
    | some b => by_cases h : b.agent = agent <;> simp [hrow, h, Option.filter_some]
  · unfold Store.isBound Table.contains
    rw [hhosts_get]
    cases hget : s.hosts.get? (HostBinding.key ⟨router, other⟩) with
    | none => simp
    | some text =>
        -- the key tells which binding the row holds
        obtain ⟨b, hread, hkey, -⟩ := hs.hosts.decodes HostBinding.of_text_to_text hget
        obtain rfl := HostBinding.key_inj hkey
        by_cases h : other = agent <;> simp [hread, h]

/-- The operator's release drops the row as a release does, and the host binding if asked to. -/
theorem release_eq (router : String) (scope : Option String) (dropHost : Bool) (s : Store) :
    release router scope dropHost s =
      match s.snatScoped? router scope with
      | .error e => .error e
      | .ok none => .ok (none, s)
      | .ok (some b) =>
        if dropHost then
          .ok (some ⟨b, s.isBound router b.agent⟩,
            (s.dropSnat router).dropHost ⟨router, b.agent⟩)
        else .ok (some ⟨b, false⟩, s.dropSnat router) := by
  rw [release, bind_apply, delete_snat_eq]
  rcases s.snatScoped? router scope with e | _ | b
  · rfl
  · rfl
  · cases dropHost <;> rfl

theorem release_sound (hs : s.Sound) (router : String) (scope : Option String)
    (dropHost : Bool) :
    release router scope dropHost s =
      match s.snatIn? router scope with
      | none => .ok (none, s)
      | some b =>
        if dropHost then
          .ok (some ⟨b, s.isBound router b.agent⟩,
            (s.dropSnat router).dropHost ⟨router, b.agent⟩)
        else .ok (some ⟨b, false⟩, s.dropSnat router) := by
  rw [release_eq, hs.snat_scoped]
  cases s.snatIn? router scope <;> rfl

end Transaction

end RouterBinding
