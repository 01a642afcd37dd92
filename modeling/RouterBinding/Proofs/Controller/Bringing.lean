import RouterBinding.Proofs.Controller.Atomic
import RouterBinding.Proofs.Controller.Elsewhere

/-!
# Bringing routers, over stores of any content

A host binding can be found in two ways, by its key and in the list of all rows, and a router is
brought to an agent only if neither finds it there. In a sound store the two agree; elsewhere
`Store.Binds` takes both together. `bring_routers_binds` says what a port that brings its routers to
an active agent adds: where the request answers, the routers that the port attaches to are bound to
the agent, and nothing else changes.
-/

namespace RouterBinding

namespace Store

/-- A row binds a router to an agent: it is found by their key, or it names them. -/
def Binds (s : Store) (router agent : String) : Prop :=
  ∃ key text b, s.hosts.get? key = some text ∧ HostBinding.ofText? text = some b ∧
    (key = HostBinding.key ⟨router, agent⟩ ∨ b = ⟨router, agent⟩)

variable {s : Store}

/-- In a sound store the row that names a router and an agent is the one under their key. -/
theorem Sound.binds_iff (hs : s.Sound) {router agent : String} :
    s.Binds router agent ↔ s.isBound router agent := by
  rw [isBound, Table.contains, Option.isSome_iff_exists]
  constructor
  · rintro ⟨key, text, b, hget, hb, rfl | rfl⟩
    · exact ⟨text, hget⟩
    · obtain ⟨b', hb', rfl, -⟩ := hs.hosts.decodes HostBinding.of_text_to_text hget
      obtain rfl : b' = ⟨router, agent⟩ := by simpa [hb] using hb'.symm
      exact ⟨text, hget⟩
  · rintro ⟨text, hget⟩
    obtain ⟨b, hb, -⟩ := hs.hosts.decodes HostBinding.of_text_to_text hget
    exact ⟨_, text, b, hget, hb, .inl rfl⟩

theorem binds_of_has_host {router agent : String} (h : s.hasHost router agent = .ok true) :
    s.Binds router agent := by
  cases hget : s.hosts.get? (HostBinding.key ⟨router, agent⟩) with
  | none => simp [hasHost, row?, hget, Except.map] at h
  | some text =>
      cases hb : HostBinding.ofText? text with
      | none => simp [hasHost, row?, hget, decoded, hb, Except.map] at h
      | some b => exact ⟨_, text, b, hget, hb, .inl rfl⟩

/-- Every binding that is listed is that of a row, and has the property that is asked for. -/
theorem of_mem_select {keep : HostBinding → Bool} {bs : List HostBinding} {b : HostBinding}
    (h : select HostBinding.ofText? s.hosts keep = .ok bs) (hb : b ∈ bs) :
    keep b ∧ s.Binds b.router b.agent := by
  rw [select] at h
  cases hscan : scan HostBinding.ofText? s.hosts with
  | error e =>
      rw [hscan] at h
      cases h
  | ok rows =>
      rw [hscan] at h
      cases h
      obtain ⟨hrow, hkeep⟩ := List.mem_filter.1 hb
      obtain ⟨row, hmem, rfl⟩ := List.mem_map.1 hrow
      obtain ⟨⟨key, text⟩, hget, hdecoded⟩ := mem_of_map_m_ok hscan row hmem
      unfold decoded at hdecoded
      cases htext : HostBinding.ofText? text with
      | none =>
          simp only [htext] at hdecoded
          cases hdecoded
      | some b' =>
          simp only [htext] at hdecoded
          cases hdecoded
          exact ⟨hkeep, key, text, _, (Table.mem_rows_iff s.hosts).1 hget, htext, .inr rfl⟩

/-- An agent that is passed over has the router. -/
theorem binds_of_passed_over {router : String} {agent : Agent}
    (h : s.leastLoaded? router [agent] = .ok none) : s.Binds router agent.id := by
  rw [leastLoaded?, ranked] at h
  cases hbound : s.hostsOfRouter router with
  | error e =>
      rw [hbound] at h
      cases h
  | ok bound =>
      rw [hbound] at h
      by_cases hfree : bound.all fun b => b.agent ≠ agent.id
      · -- the agent is ranked, and something that is ranked comes first
        exfalso
        have hpool : [agent].filter (fun a : Agent => bound.all fun b => b.agent ≠ a.id) =
            [agent] := List.filter_cons_of_pos hfree
        simp only [bind, Except.bind, hpool, List.mapM_cons, List.mapM_nil] at h
        cases hload : s.load agent.id with
        | error e =>
            rw [hload] at h
            cases h
        | ok load =>
            rw [hload] at h
            cases h
      · obtain ⟨b, hb, hagent⟩ : ∃ b ∈ bound, b.agent = agent.id := by simpa using hfree
        obtain ⟨hrouter, hbinds⟩ := of_mem_select hbound hb
        simp only [decide_eq_true_eq] at hrouter
        rwa [hrouter, hagent] at hbinds

/-- A host binding that is added to rows that all decode binds its own router and agent. -/
theorem HostsDecode.binds_with_host (hs : s.HostsDecode) (b : HostBinding)
    {router agent : String} :
    (s.withHost b).Binds router agent ↔ s.Binds router agent ∨ b = ⟨router, agent⟩ := by
  unfold withHost
  cases hb : s.hosts.get? b.key with
  | some text =>
      have hbound : s.isBound b.router b.agent = true := by
        show (s.hosts.get? b.key).isSome = true
        rw [hb]
        rfl
      obtain ⟨b', hb'⟩ := hs (_, text) ((Table.mem_rows_iff s.hosts).2 hb)
      rw [if_pos hbound]
      refine ⟨.inl, ?_⟩
      rintro (h | rfl)
      · exact h
      · exact ⟨_, text, b', hb, hb', .inl rfl⟩
  | none =>
      have hfree : ¬s.isBound b.router b.agent = true := by
        show ¬(s.hosts.get? b.key).isSome = true
        rw [hb]
        exact Bool.false_ne_true
      rw [if_neg hfree]
      constructor
      · rintro ⟨key, text, b', hget, hb', hnames⟩
        rw [putHost, Table.get_insert] at hget
        split at hget
        next heq =>
          obtain rfl : b.key = key := by simpa using heq
          obtain rfl : b.toText = text := by simpa using hget
          obtain rfl : b = b' := by simpa [HostBinding.of_text_to_text] using hb'
          exact .inr (hnames.elim (HostBinding.key_inj ·) id)
        next => exact .inl ⟨key, text, b', hget, hb', hnames⟩
      · rintro (⟨key, text, b', hget, hb', hnames⟩ | rfl)
        · have hne : b.key ≠ key := by
            rintro rfl
            rw [hb] at hget
            cases hget
          exact ⟨key, text, b', by rw [putHost, Table.get_insert_of_ne _ _ hne, hget], hb', hnames⟩
        · exact ⟨_, _, _, Table.get_insert_self _ _ _, HostBinding.of_text_to_text _, .inl rfl⟩

end Store

/-- A serviced port is on the host of an active agent. -/
structure Directory.Settled (d : Directory) (port : Port) (host : String) (a : Agent) : Prop where
  serviced : port.isServiced
  bound : port.host = some host
  found : d.agentOn? host = some a
  active : a.isActive

/-- Links have no part in where a port is settled. -/
theorem Directory.Settled.relinks {d d' : Directory} {port : Port} {host : String} {a : Agent}
    (h : d.Settled port host a) (hlinks : d.Relinks d') : d'.Settled port host a :=
  { h with found := (hlinks.same (·.agentOn? host) fun _ _ => rfl).trans h.found }

namespace Controller

open RouterBinding.Action

variable {c c' : Controller} {agent : Agent}

/-- A router that is to be on an agent is there already, or it is passed over, or it is placed on
the agent, which is active then. -/
theorem ensure_host_ok_cases {router : String}
    (hrun : (ensureHost agent router).runOn c = (.ok (), c')) :
    c.store.hasHost router agent.id = .ok true ∧ c' = c ∨
      c.store.leastLoaded? router ([agent].filter (·.isActive)) = .ok none ∧ c' = c ∨
      agent.isActive ∧
        c.store.leastLoaded? router ([agent].filter (·.isActive)) = .ok (some agent.id) ∧
        c' = { c with store := c.store.withHost ⟨router, agent.id⟩ } := by
  rw [ensureHost, run_on_bind, run_on_consult] at hrun
  rcases hhas : c.store.hasHost router agent.id with e | _ | _ <;> rw [hhas] at hrun
  · cases hrun
  · simp only [map_error_ok, Bool.not_false, if_true] at hrun
    rw [run_on_bind, run_on_place_one] at hrun
    rcases hchosen : c.store.leastLoaded? router ([agent].filter (·.isActive)) with e | _ | id <;>
      rw [hchosen] at hrun <;> cases hrun
    · exact .inr (.inl ⟨rfl, rfl⟩)
    · -- only the agent itself can be chosen, and only if it is active
      obtain ⟨a, ha, rfl⟩ := Store.mem_of_least_loaded hchosen
      obtain ⟨hmem, hactive⟩ := List.mem_filter.1 ha
      obtain rfl := List.mem_singleton.1 hmem
      exact .inr (.inr ⟨hactive, rfl, rfl⟩)
  · cases hrun
    exact .inl ⟨rfl, rfl⟩

/-- An active agent that is to have a router has it afterwards, and nothing else changes. -/
theorem ensure_host_binds (hactive : agent.isActive) {router : String}
    (hrun : (ensureHost agent router).runOn c = (.ok (), c')) :
    c'.directory = c.directory ∧ ∀ r other, c'.store.Binds r other ↔
      c.store.Binds r other ∨ r = router ∧ other = agent.id := by
  have hpool : [agent].filter (·.isActive) = [agent] := List.filter_cons_of_pos hactive
  have hkept : c.store.Binds router agent.id → ∀ r other, c.store.Binds r other ↔
      c.store.Binds r other ∨ r = router ∧ other = agent.id := by
    intro h r other
    exact ⟨.inl, fun hr => hr.elim id fun ⟨hrouter, hagent⟩ => hrouter ▸ hagent ▸ h⟩
  obtain ⟨hhas, rfl⟩ | ⟨hnone, rfl⟩ | ⟨-, hchosen, rfl⟩ := ensure_host_ok_cases hrun
  · exact ⟨rfl, hkept (Store.binds_of_has_host hhas)⟩
  · rw [hpool] at hnone
    exact ⟨rfl, hkept (Store.binds_of_passed_over hnone)⟩
  · refine ⟨rfl, fun r other => ?_⟩
    rw [(Store.hosts_decode_of_least_loaded hchosen).binds_with_host]
    simp [eq_comm]

theorem ensure_hosts_binds (hactive : agent.isActive) {routers : List String}
    (hrun : (routers.forM (ensureHost agent)).runOn c = (.ok (), c')) :
    c'.directory = c.directory ∧ ∀ r other, c'.store.Binds r other ↔
      c.store.Binds r other ∨ r ∈ routers ∧ other = agent.id := by
  induction routers generalizing c with
  | nil =>
      cases hrun
      simp
  | cons router routers ih =>
      obtain ⟨⟨⟩, c₁, hfirst, hrest⟩ := ok_of_bind (a := ensureHost agent router)
        (f := fun _ => routers.forM (ensureHost agent)) hrun
      obtain ⟨hdirectory, hbinds⟩ := ensure_host_binds hactive hfirst
      obtain ⟨hdirectory', hbinds'⟩ := ih hrest
      refine ⟨hdirectory'.trans hdirectory, fun r other => ?_⟩
      rw [hbinds', hbinds, List.mem_cons, or_and_right, or_assoc]

/-- Routers that a port brings to an active agent are those that it attaches to, as far as the one
who brings them can see. -/
theorem bring_routers_binds (hd : c.directory.Serving) {port : Port} {host : String}
    (hsettled : c.directory.Settled port host agent) {ctx : Context} {routers : List String}
    (hrun : (bringRouters ctx port).runOn c = (.ok routers, c')) (r other : String) :
    c'.store.Binds r other ↔ c.store.Binds r other ∨
      r ∈ c.directory.attached ctx port.fixedIps ∧ other = agent.id := by
  unfold bringRouters at hrun
  rw [hsettled.bound] at hrun
  simp only at hrun
  rw [run_on_bind, run_on_ask, hd.agent_on_host, hsettled.found] at hrun
  simp only [map_error_ok] at hrun
  rw [bringTo, run_on_bind, run_on_ask, hd.routers_on] at hrun
  simp only [map_error_ok] at hrun
  obtain ⟨⟨⟩, c₁, hensured, hnotified⟩ := ok_of_bind hrun
  have hstore : c'.store = c₁.store := by
    split at hnotified <;> cases hnotified <;> rfl
  rw [hstore]
  exact (ensure_hosts_binds hsettled.active hensured).2 r other

/-- The same holds once the neighbours of the port are told of it. -/
theorem announced_binds (hd : c.directory.Serving) {port : Port} {host : String}
    (hsettled : c.directory.Settled port host agent) {ctx : Context}
    (hrun : (do let _ ← bringRouters ctx port; refreshArp port .add : Action Unit).runOn c =
      (.ok (), c')) (r other : String) :
    c'.store.Binds r other ↔ c.store.Binds r other ∨
      r ∈ c.directory.attached ctx port.fixedIps ∧ other = agent.id := by
  obtain ⟨routers, c₁, hbrought, hrefreshed⟩ := ok_of_bind hrun
  have hstore : c'.store = c₁.store := by
    unfold refreshArp at hrefreshed
    split at hrefreshed <;> cases hrefreshed <;> rfl
  rw [hstore]
  exact bring_routers_binds hd hsettled hbrought r other

end Controller

end RouterBinding
