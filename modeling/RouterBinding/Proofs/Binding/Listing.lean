import Mathlib.Data.String.Basic
import RouterBinding.Operator.Report
import RouterBinding.Proofs.Binding.View
import RouterBinding.Proofs.Text.ByteOrder

/-!
# The order of a listing

A table lists its rows by increasing key. The SNAT bindings therefore come by increasing router, and
the host bindings of one router by increasing agent (`HostBinding.key_lt_key`): their keys share
everything up to the agent. `Sound.report_of_router` says that the report on one router is the part
of the whole report that is about it, in the same order.
-/

namespace RouterBinding

/-- Texts with the same beginning are ordered by their rests. -/
theorem append_lt_append_left_iff (p a b : String) : p ++ a < p ++ b ↔ a < b := by
  rw [String.lt_iff_toList_lt, String.lt_iff_toList_lt, String.toList_append, String.toList_append]
  exact lists_lt_append_left_iff _ _ _

/-- The host bindings of one router are ordered by their agents. -/
theorem HostBinding.key_lt_key (router agent agent' : String) :
    key ⟨router, agent⟩ < key ⟨router, agent'⟩ ↔ agent < agent' := by
  unfold key
  exact append_lt_append_left_iff _ agent agent'

/-- Items that come by strictly increasing key come once each. -/
theorem nodup_of_increasing {α : Type} {key : α → String} {items : List α}
    (h : items.Pairwise fun a b => key a < key b) : items.Nodup := by
  refine h.imp fun {a b} hlt => ?_
  intro heq
  exact lt_irrefl (key a) (heq ▸ hlt)

namespace Table.Written

variable {α : Type} {key toText : α → String} {ofText? : String → Option α}
  {t : Table String String}

/-- Listing the items that have a property gives exactly those, by increasing key. -/
theorem select_increasing (ht : Written key toText t) (hread : ∀ a, ofText? (toText a) = some a)
    (keep : α → Bool) :
    ∃ items, Store.select ofText? t keep = .ok items ∧
      (∀ a, a ∈ items ↔ keep a ∧ t.get? (key a) = some (toText a)) ∧
      items.Pairwise fun a b => key a < key b := by
  obtain ⟨items, hscan, hkeys, hmem⟩ := ht.scan hread
  have hitem : (Prod.snd ∘ fun a : α => (key a, a)) = id := rfl
  refine ⟨items.filter keep, ?_, fun a => ?_, ?_⟩
  · simp [Store.select, hscan, Except.map, hitem]
  · rw [List.mem_filter, hmem, and_comm]
  · have hincreasing : t.keys.Pairwise (· < ·) :=
      List.pairwise_map.2 (t.increasing.imp fun h => compare_lt_iff_lt.1 h)
    rw [← hkeys, List.pairwise_map] at hincreasing
    exact hincreasing.filter keep

end Table.Written

namespace Store

/-- Of the SNAT bindings, those of a router are the one that the router has. -/
theorem filter_snat_bindings {s : Store} {bs : List SnatBinding}
    (hmem : ∀ router b, b ∈ bs ∧ b.router = router ↔ s.snatRow? router = some b)
    (hincreasing : bs.Pairwise fun b c => b.router < c.router) (router : String) :
    bs.filter (fun b => b.router = router) = (s.snatRow? router).toList := by
  have hfound : ∀ b, b ∈ bs.filter (fun b => b.router = router) ↔ s.snatRow? router = some b := by
    intro b
    rw [← hmem, List.mem_filter, decide_eq_true_eq]
  have hnodup : (bs.filter fun b => b.router = router).Nodup :=
    nodup_of_increasing (hincreasing.filter _)
  cases hrow : s.snatRow? router with
  | none =>
      refine List.eq_nil_iff_forall_not_mem.2 fun b hb => ?_
      rw [hfound, hrow] at hb
      cases hb
  | some b =>
      refine List.perm_singleton.1 ((List.perm_ext_iff_of_nodup hnodup (by simp)).2 fun c => ?_)
      rw [hfound, hrow, List.mem_singleton, Option.some_inj, eq_comm]

namespace Sound

variable {s : Store}

theorem select_hosts_increasing (hs : s.Sound) (keep : HostBinding → Bool) :
    ∃ bs, Store.select HostBinding.ofText? s.hosts keep = .ok bs ∧
      (∀ b, b ∈ bs ↔ keep b ∧ s.isBound b.router b.agent) ∧
      bs.Pairwise fun b c => b.key < c.key := by
  obtain ⟨bs, hbs, hmem, hkeys⟩ :=
    hs.hosts.select_increasing HostBinding.of_text_to_text keep
  exact ⟨bs, hbs, fun b => by rw [hmem, hs.get_hosts_iff], hkeys⟩

/-- The SNAT bindings are listed by increasing router. -/
theorem snat_bindings_increasing (hs : s.Sound) :
    ∃ bs, s.snatBindings = .ok bs ∧
      (∀ router b, b ∈ bs ∧ b.router = router ↔ s.snatRow? router = some b) ∧
      bs.Pairwise fun b c => b.router < c.router := by
  obtain ⟨bs, hbs, hmem, hkeys⟩ :=
    hs.snat.select_increasing SnatBinding.of_text_to_text fun _ => true
  refine ⟨bs, hbs, fun router b => ?_, hkeys⟩
  rw [hs.snat_row_iff, hmem, and_comm]
  simp only [SnatBinding.key, true_and]

/-- The host bindings of a router are listed by increasing agent. -/
theorem hosts_of_router_increasing (hs : s.Sound) (router : String) :
    ∃ bs, s.hostsOfRouter router = .ok bs ∧
      (∀ b, b ∈ bs ↔ b.router = router ∧ s.isBound b.router b.agent) ∧
      bs.Pairwise fun b c => b.agent < c.agent := by
  obtain ⟨bs, hbs, hmem, hkeys⟩ := hs.select_hosts_increasing fun b => b.router = router
  simp only [decide_eq_true_eq] at hmem
  refine ⟨bs, hbs, hmem, hkeys.imp_of_mem fun {b c} hb hc hlt => ?_⟩
  obtain ⟨router', agent⟩ := b
  obtain ⟨router'', agent'⟩ := c
  obtain rfl : router' = router := ((hmem _).1 hb).1
  obtain rfl : router'' = router' := ((hmem _).1 hc).1
  exact (HostBinding.key_lt_key _ agent agent').1 hlt

/-- No host binding is listed twice. -/
theorem host_bindings_nodup (hs : s.Sound) :
    ∃ bs, s.hostBindings = .ok bs ∧ (∀ b, b ∈ bs ↔ s.isBound b.router b.agent) ∧ bs.Nodup := by
  obtain ⟨bs, hbs, hmem, hkeys⟩ := hs.select_hosts_increasing fun _ => true
  exact ⟨bs, hbs, by simpa using hmem, nodup_of_increasing hkeys⟩

theorem hosts_of_agent_nodup (hs : s.Sound) (agent : String) :
    ∃ bs, s.hostsOfAgent agent = .ok bs ∧
      (∀ b, b ∈ bs ↔ b.agent = agent ∧ s.isBound b.router b.agent) ∧ bs.Nodup := by
  obtain ⟨bs, hbs, hmem, hkeys⟩ := hs.select_hosts_increasing fun b => b.agent = agent
  exact ⟨bs, hbs, by simpa using hmem, nodup_of_increasing hkeys⟩

/-- The report on a router is what the whole report says about it. -/
theorem report_of_router (hs : s.Sound) (router : String) :
    ∃ all, Report.collect s none = .ok all ∧
      Report.collect s (some router) =
        .ok ⟨all.snat.filter fun b => b.router = router,
          all.hosts.filter fun b => b.router = router⟩ := by
  obtain ⟨snat, hsnat, hmem, hincreasing⟩ := hs.snat_bindings_increasing
  obtain ⟨hosts, hhosts, -⟩ := hs.host_bindings
  have hpart : s.hostsOfRouter router = .ok (hosts.filter fun b => b.router = router) := by
    -- one listing is the other with a stricter filter
    have hscan : (Store.scan HostBinding.ofText? s.hosts).map (List.map Prod.snd) = .ok hosts := by
      rw [← hhosts, Store.hostBindings, Store.select]
      simp only [List.filter_true]
    rw [Store.hostsOfRouter, Store.select]
    cases hrows : Store.scan HostBinding.ofText? s.hosts with
    | error e => rw [hrows] at hscan; cases hscan
    | ok rows =>
        rw [hrows] at hscan
        cases hscan
        rfl
  refine ⟨⟨snat, hosts⟩, ?_, ?_⟩
  · rw [Report.collect, hsnat, hhosts]
    rfl
  · rw [Report.collect, hs.snat_of, hpart, filter_snat_bindings hmem hincreasing]
    rfl

end Sound

end Store

end RouterBinding
