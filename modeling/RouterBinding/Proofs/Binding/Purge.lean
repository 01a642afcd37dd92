import RouterBinding.Controller.Reconcile
import RouterBinding.Operator.Session
import RouterBinding.Proofs.Controller.Atomic

/-!
# Purging an agent

A purge finds the rows of an agent by what they hold and erases them by their keys, which over
stores of any content need not belong together. `Table.Purged` says of one table that nothing but
the rows that hold an item of a kind is gone, and `purge_exact` that a purge does this to both
tables or, where a row does not decode, leaves them as they are; it is the same for the controller
and the operator.
-/

namespace RouterBinding

namespace Table

/-- The rows of a table that hold an item of a kind are gone, and as many of them are counted. -/
structure Purged {α : Type} (ofText? : String → Option α) (drop : α → Bool)
    (t t' : Table String String) (count : Nat) : Prop where
  gone : ∀ key text a, t'.get? key = some text → ofText? text = some a → drop a = false
  /-- A row that holds another item is left under its key as it was. -/
  kept : ∀ key text a, t.get? key = some text → ofText? text = some a → drop a = false →
    t'.get? key = some text
  /-- There is no row that was not there. -/
  old : ∀ key text, t'.get? key = some text → t.get? key = some text
  counted : t'.rows.length + count = t.rows.length

/-- Erasing some keys leaves the rows under all others in their order. -/
theorem rows_foldl_erase {κ α : Type} [Ord κ] [Std.LawfulEqOrd κ] [DecidableEq κ] (keys : List κ)
    (t : Table κ α) :
    (keys.foldl erase t).rows = t.rows.filter fun row => decide (row.1 ∉ keys) := by
  induction keys generalizing t with
  | nil => simp
  | cons key keys ih =>
      rw [List.foldl_cons, ih, erase, List.filter_filter]
      refine List.filter_congr fun row _ => ?_
      by_cases hkey : key = row.1
      · simp [hkey]
      · simp [hkey, Ne.symm hkey]

end Table

namespace Transaction

variable {α : Type} {ofText? : String → Option α} {t t' : Table String String}

theorem keys_where_ok_iff (keep : α → Bool) :
    (∃ keys, keysWhere ofText? t keep = .ok keys) ↔
      ∀ row ∈ t.rows, ∃ a, ofText? row.2 = some a := by
  rw [← Store.scan_ok_iff, keysWhere]
  cases Store.scan ofText? t <;> simp [Except.map]

/-- The keys found are those of the rows that hold an item of the kind. -/
theorem keys_where_eq (hdecode : ∀ row ∈ t.rows, ∃ a, ofText? row.2 = some a) (keep : α → Bool) :
    keysWhere ofText? t keep =
      .ok ((t.rows.filter fun row => (ofText? row.2).any keep).map Prod.fst) := by
  rw [keysWhere, Store.scan]
  generalize t.rows = rows at hdecode ⊢
  induction rows with
  | nil => rfl
  | cons row rows ih =>
      obtain ⟨⟨a, ha⟩, hrest⟩ := List.forall_mem_cons.1 hdecode
      specialize ih hrest
      have hrow : (Store.decoded ofText? row.2).map (fun a => (row.1, a)) = .ok (row.1, a) := by
        rw [Store.decoded, ha]
        rfl
      rw [List.mapM_cons, hrow]
      cases hfound : rows.mapM fun row =>
          (Store.decoded ofText? row.2).map fun a => (row.1, a) with
      | error e =>
          rw [hfound] at ih
          cases ih
      | ok found =>
          rw [hfound] at ih
          have hkeys := Except.ok.inj ih
          show Except.ok ((((row.1, a) :: found).filter fun row => keep row.2).map Prod.fst) = _
          cases hkeep : keep a <;> simp [ha, hkeep, hkeys]

/-- Erasing the keys found purges a table whose rows decode. -/
theorem purged_of_keys (hdecode : ∀ row ∈ t.rows, ∃ a, ofText? row.2 = some a) (drop : α → Bool) :
    ∃ keys, keysWhere ofText? t drop = .ok keys ∧
      Table.Purged ofText? drop t (keys.foldl Table.erase t) keys.length := by
  refine ⟨_, keys_where_eq hdecode drop, ?_⟩
  have hmem : ∀ key text, t.get? key = some text →
      (key ∈ (t.rows.filter fun row => (ofText? row.2).any drop).map Prod.fst ↔
        (ofText? text).any drop = true) := by
    intro key text hget
    constructor
    · intro h
      obtain ⟨row, hrow, rfl⟩ := List.mem_map.1 h
      obtain ⟨hlisted, hdrop⟩ := List.mem_filter.1 hrow
      -- a key finds one row only
      have hfound : t.get? row.1 = some row.2 := (Table.mem_rows_iff t).1 hlisted
      obtain rfl : row.2 = text := Option.some.inj (hfound.symm.trans hget)
      exact hdrop
    · intro h
      exact List.mem_map.2 ⟨(key, text), List.mem_filter.2 ⟨(Table.mem_rows_iff t).2 hget, h⟩, rfl⟩
  generalize hkeys : (t.rows.filter fun row => (ofText? row.2).any drop).map Prod.fst = keys
    at hmem ⊢
  refine ⟨fun key text a hget ha => ?_, fun key text a hget ha hother => ?_,
    fun key text hget => ?_, ?_⟩
  · rw [Table.get_foldl_erase] at hget
    split at hget
    next => cases hget
    next hfree =>
      have hnot := mt (hmem key text hget).2 hfree
      simpa [ha] using hnot
  · have hfree : key ∉ keys := by
      rw [hmem key text hget, ha]
      simp [hother]
    rw [Table.get_foldl_erase, if_neg hfree, hget]
  · rw [Table.get_foldl_erase] at hget
    split at hget
    · cases hget
    · exact hget
  · have hleft : t.rows.filter (fun row => decide (row.1 ∉ keys)) =
        t.rows.filter fun row => !(ofText? row.2).any drop := by
      refine List.filter_congr fun row hrow => ?_
      have hfound := hmem row.1 row.2 ((Table.mem_rows_iff t).1 hrow)
      rw [Bool.eq_iff_iff, decide_eq_true_eq, hfound]
      simp
    rw [Table.rows_foldl_erase, hleft, ← hkeys, List.length_map, Nat.add_comm]
    exact (List.length_eq_length_filter_add _).symm

/-- Nothing is found in a table that has been purged. -/
theorem keys_where_purged {drop : α → Bool} {count : Nat}
    (hpurged : Table.Purged ofText? drop t t' count)
    (hdecode : ∀ row ∈ t.rows, ∃ a, ofText? row.2 = some a) :
    keysWhere ofText? t' drop = .ok [] := by
  have hrows : ∀ row ∈ t'.rows, t'.get? row.1 = some row.2 := fun row hrow =>
    (Table.mem_rows_iff t').1 hrow
  have hdecode' : ∀ row ∈ t'.rows, ∃ a, ofText? row.2 = some a := fun row hrow =>
    hdecode row ((Table.mem_rows_iff t).2 (hpurged.old _ _ (hrows row hrow)))
  have hnone : t'.rows.filter (fun row => (ofText? row.2).any drop) = [] := by
    refine List.filter_eq_nil_iff.2 fun row hrow => ?_
    obtain ⟨a, ha⟩ := hdecode' row hrow
    simp [ha, hpurged.gone row.1 row.2 a (hrows row hrow) ha]
  rw [keys_where_eq hdecode', hnone]
  rfl

end Transaction

/-- Every row of either table decodes, under whatever key it is. -/
structure Store.Decodes (s : Store) : Prop where
  snat : ∀ row ∈ s.snat.rows, ∃ b, SnatBinding.ofText? row.2 = some b
  hosts : ∀ row ∈ s.hosts.rows, ∃ b, HostBinding.ofText? row.2 = some b

/-- The rows that name an agent are gone from both tables, and are counted. -/
structure Store.Purged (agent : String) (s s' : Store) (snat hosts : Nat) : Prop where
  snat : Table.Purged SnatBinding.ofText? (fun b => b.agent = agent) s.snat s'.snat snat
  hosts : Table.Purged HostBinding.ofText? (fun b => b.agent = agent) s.hosts s'.hosts hosts

namespace Transaction

variable {s s' : Store} {agent : String}

theorem delete_agent_purged (hs : s.Decodes) (agent : String) :
    ∃ snat hosts s', deleteAgent agent s = .ok ((snat, hosts), s') ∧
      s.Purged agent s' snat hosts := by
  obtain ⟨snat, hsnat, hsnat_purged⟩ := purged_of_keys hs.snat fun b => b.agent = agent
  obtain ⟨hosts, hhosts, hhosts_purged⟩ := purged_of_keys hs.hosts fun b => b.agent = agent
  exact ⟨_, _, _, delete_agent_of_keys hsnat hhosts, hsnat_purged, hhosts_purged⟩

/-- A row of either table that does not decode stops a purge. -/
theorem delete_agent_error (hs : ¬s.Decodes) (agent : String) :
    ∃ e, deleteAgent agent s = .error e := by
  rw [deleteAgent, bind_apply, query_apply]
  cases hsnat : keysWhere SnatBinding.ofText? s.snat fun b => b.agent = agent with
  | error e => exact ⟨e, rfl⟩
  | ok snat =>
      simp only [Except.map]
      rw [bind_apply, query_apply]
      cases hhosts : keysWhere HostBinding.ofText? s.hosts fun b => b.agent = agent with
      | error e => exact ⟨e, rfl⟩
      | ok hosts =>
          exact absurd ⟨(keys_where_ok_iff _).1 ⟨_, hsnat⟩, (keys_where_ok_iff _).1 ⟨_, hhosts⟩⟩ hs

/-- There is nothing left to purge. -/
theorem delete_agent_again (hs : s.Decodes) {snat hosts : Nat}
    (hpurged : s.Purged agent s' snat hosts) : deleteAgent agent s' = .ok ((0, 0), s') :=
  delete_agent_of_keys (keys_where_purged hpurged.snat hs.snat)
    (keys_where_purged hpurged.hosts hs.hosts)

/-- Over stores of any content a purge fails exactly if a row of either table does not decode, and
nothing changes then. Otherwise exactly the rows that name the agent are gone, their numbers are the
answer, and another purge finds none. The controller and the operator's tool answer and leave the
same. -/
theorem purge_exact (hsnat : s.snat.rows.length < UInt32.size)
    (hhosts : s.hosts.rows.length < UInt32.size) (agent : String) :
    ((∃ e, (s.commit (deleteAgent agent)).1 = .error e) ↔ ¬s.Decodes) ∧
    (¬s.Decodes → (s.commit (deleteAgent agent)).2 = s) ∧
    (s.Decodes → ∃ (snat hosts : UInt32) (s' : Store),
      s.commit (deleteAgent agent) = (.ok (snat.toNat, hosts.toNat), s') ∧
      s.Purged agent s' snat.toNat hosts.toNat ∧
      s'.commit (deleteAgent agent) = (.ok (0, 0), s')) ∧
    (∀ c : Controller, (Controller.purge agent).runOn { c with store := s } =
      ((s.commit (deleteAgent agent)).1.mapError .store,
        { c with store := (s.commit (deleteAgent agent)).2 })) ∧
    Session.onStore s (.purgeAgent agent) =
      match s.commit (deleteAgent agent) with
      | (.ok (snat, hosts), s') => (.done (Session.purgeOutput agent snat hosts), s')
      | (.error _, s') => (.failed, s') := by
  refine ⟨⟨?_, fun hs => ?_⟩, fun hs => ?_, fun hs => ?_, fun c => ?_, ?_⟩
  · rintro ⟨e, herror⟩ hs
    obtain ⟨snat, hosts, s', hrun, -⟩ := delete_agent_purged hs agent
    rw [Store.commit_of_ok hrun] at herror
    cases herror
  · obtain ⟨e, hrun⟩ := delete_agent_error hs agent
    exact ⟨e, by rw [Store.commit_of_error hrun]⟩
  · obtain ⟨e, hrun⟩ := delete_agent_error hs agent
    rw [Store.commit_of_error hrun]
  · obtain ⟨snat, hosts, s', hrun, hpurged⟩ := delete_agent_purged hs agent
    -- no more rows are counted than there are, so the counts have 32 bits
    have hsnat_count : (UInt32.ofNat snat).toNat = snat :=
      UInt32.toNat_ofNat_of_lt' (by have := hpurged.snat.counted; omega)
    have hhosts_count : (UInt32.ofNat hosts).toNat = hosts :=
      UInt32.toNat_ofNat_of_lt' (by have := hpurged.hosts.counted; omega)
    refine ⟨.ofNat snat, .ofNat hosts, s', ?_, ?_, ?_⟩
    · rw [hsnat_count, hhosts_count, Store.commit_of_ok hrun]
    · rwa [hsnat_count, hhosts_count]
    · rw [Store.commit_of_ok (delete_agent_again hs hpurged)]
  · exact Action.run_on_commit_in_request (deleteAgent agent) { c with store := s }
  · rw [Session.onStore, Session.transact]
    rcases s.commit (deleteAgent agent) with ⟨e | counts, s'⟩ <;> rfl

end Transaction

namespace Store

/-- Rows of two agents, each under a key that is not its own. -/
def misfiled : Store where
  snat := (∅ : Table String String).insert "r2" (SnatBinding.toText ⟨"r1", "a1", "h1", none⟩)
  hosts := ((∅ : Table String String).insert "1:r1:a2" (HostBinding.toText ⟨"r1", "a1"⟩)).insert
    "key" (HostBinding.toText ⟨"r2", "a2"⟩)

theorem misfiled_decodes : misfiled.Decodes where
  snat := by
    intro row hrow
    have hrows : misfiled.snat.rows = [("r2", SnatBinding.toText ⟨"r1", "a1", "h1", none⟩)] := rfl
    rw [hrows, List.mem_singleton] at hrow
    subst hrow
    exact ⟨_, SnatBinding.of_text_to_text _⟩
  hosts := by
    intro row hrow
    have hrows : misfiled.hosts.rows = [("1:r1:a2", HostBinding.toText ⟨"r1", "a1"⟩),
        ("key", HostBinding.toText ⟨"r2", "a2"⟩)] := rfl
    rw [hrows, List.mem_cons, List.mem_singleton] at hrow
    rcases hrow with rfl | rfl
    · exact ⟨_, HostBinding.of_text_to_text _⟩
    · exact ⟨_, HostBinding.of_text_to_text _⟩

end Store

namespace Transaction

open Store in
theorem purge_exact_misfiled :
    misfiled.snat.rows.length < UInt32.size ∧ misfiled.hosts.rows.length < UInt32.size ∧
      misfiled.Decodes ∧ ∃ (snat hosts : UInt32) (s' : Store),
        misfiled.commit (deleteAgent "a1") = (.ok (snat.toNat, hosts.toNat), s') ∧
        misfiled.Purged "a1" s' snat.toNat hosts.toNat ∧
        s'.commit (deleteAgent "a1") = (.ok (0, 0), s') := by
  have hsnat : misfiled.snat.rows.length < UInt32.size := by decide
  have hhosts : misfiled.hosts.rows.length < UInt32.size := by decide
  exact ⟨hsnat, hhosts, misfiled_decodes,
    (purge_exact hsnat hhosts "a1").2.2.1 misfiled_decodes⟩

end Transaction

end RouterBinding
