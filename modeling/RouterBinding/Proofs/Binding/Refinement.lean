import Mathlib.Data.Set.Card
import RouterBinding.Binding.Script
import RouterBinding.Proofs.Binding.Effect
import RouterBinding.Proofs.Binding.Listing

/-!
# The store as a map and a set

`Bindings` is what a store is about: a partial map from routers to SNAT bindings and a set of pairs
of a router and an agent. `Bindings.perform` says what each operation does to it, `Bindings.Works`
how a transaction sees it from inside, and `Bindings.Transacts` what is left of it after a commit or
an abort. `store_refines_bindings` is the refinement: over every list of transactions from a fresh
store, each result is the only one that the map and the set admit, and every query of the store that
is left shows them.

The refinement mapping is `Store.bindings`. Its square is proved for one operation
(`Sound.perform`), from there for a transaction (`Sound.works` and `Sound.transacts`) and for a list
of them (`Sound.transacts_all`). A script is one such transaction (`Script.run_transacts`).
-/

namespace RouterBinding

/-- The SNAT binding of each router that has one, and the host bindings. -/
@[ext]
structure Bindings where
  snat : String → Option SnatBinding
  hosts : Set HostBinding

namespace Bindings

instance : EmptyCollection Bindings := ⟨⟨fun _ => none, ∅⟩⟩

open Classical in
/-- What an operation answers and leaves. -/
noncomputable def perform (m : Bindings) :
    StoreOperation → Except ScriptFailure StoreAnswer × Bindings
  | .getSnat router => (.ok (.snat (m.snat router)), m)
  | .insertSnat b =>
    if (m.snat b.router).isSome then (.error (.store (.duplicateSnat b.router)), m)
    else (.ok .done, { m with snat := Function.update m.snat b.router (some b) })
  | .deleteSnat router scope =>
    match (m.snat router).filter fun b => scope.all (· = b.agent) with
    | none => (.ok (.snat none), m)
    | some b => (.ok (.snat (some b)), { m with snat := Function.update m.snat router none })
  | .hasHost router agent => (.ok (.flag (decide (⟨router, agent⟩ ∈ m.hosts))), m)
  | .insertHost router agent =>
    (.ok (.flag !decide (⟨router, agent⟩ ∈ m.hosts)),
      { m with hosts := insert ⟨router, agent⟩ m.hosts })
  | .deleteHost router agent =>
    (.ok (.flag (decide (⟨router, agent⟩ ∈ m.hosts))),
      { m with hosts := m.hosts \ {⟨router, agent⟩} })
  | .deleteAgent agent =>
    (.ok (.counts {router | (m.snat router).any (·.agent = agent)}.ncard
        {b ∈ m.hosts | b.agent = agent}.ncard),
      ⟨fun router => (m.snat router).filter (·.agent ≠ agent), {b ∈ m.hosts | b.agent ≠ agent}⟩)
  | .abort => (.error .aborted, m)

end Bindings

/-! ## Transactions on a map and a set -/

namespace Bindings

variable {ε α : Type}

/-- A transaction begun on `m` ends with a result, and what it made of its own copy of `m` by then.
Each operation sees what those before it made. -/
inductive Works : Bindings → TransactionBody ε α → Except ε α → Bindings → Prop where
  | finish (m : Bindings) (result : Except ε α) : Works m (.finish result) result m
  | perform {m m' : Bindings} {op : StoreOperation}
      {next : Except ScriptFailure StoreAnswer → TransactionBody ε α} {result : Except ε α}
      (h : Works (m.perform op).2 (next (m.perform op).1) result m') :
      Works m (.perform op next) result m'

/-- A transaction that succeeds leaves what it made, one that fails leaves everything as it was. -/
inductive Transacts : Bindings → TransactionBody ε α → Except ε α → Bindings → Prop where
  | commit {m m' : Bindings} {body : TransactionBody ε α} {a : α}
      (h : Works m body (.ok a) m') : Transacts m body (.ok a) m'
  | abort {m m' : Bindings} {body : TransactionBody ε α} {e : ε}
      (h : Works m body (.error e) m') : Transacts m body (.error e) m

/-- Transactions run one after another. -/
inductive TransactsAll :
    Bindings → List (TransactionBody ε α) → List (Except ε α) → Bindings → Prop where
  | nil (m : Bindings) : TransactsAll m [] [] m
  | cons {m m' m'' : Bindings} {body : TransactionBody ε α} {bodies : List (TransactionBody ε α)}
      {result : Except ε α} {results : List (Except ε α)}
      (hbody : Transacts m body result m') (hrest : TransactsAll m' bodies results m'') :
      TransactsAll m (body :: bodies) (result :: results) m''

variable {m m₁ m₂ : Bindings} {body : TransactionBody ε α} {bodies : List (TransactionBody ε α)}

theorem works_unique {result result' : Except ε α} (h : Works m body result m₁)
    (h' : Works m body result' m₂) : result = result' ∧ m₁ = m₂ := by
  induction h with
  | finish m result =>
      cases h'
      exact ⟨rfl, rfl⟩
  | perform _ ih =>
      cases h' with
      | perform h' => exact ih h'

theorem transacts_unique {result result' : Except ε α} (h : Transacts m body result m₁)
    (h' : Transacts m body result' m₂) : result = result' ∧ m₁ = m₂ := by
  cases h with
  | commit h =>
      cases h' with
      | commit h' =>
          obtain ⟨heq, rfl⟩ := works_unique h h'
          exact ⟨heq, rfl⟩
      | abort h' => cases (works_unique h h').1
  | abort h =>
      cases h' with
      | commit h' => cases (works_unique h h').1
      | abort h' => exact ⟨(works_unique h h').1, rfl⟩

/-- A transaction ends as it does inside, also where an abort undoes what it made. -/
theorem Transacts.works {result : Except ε α} (h : Transacts m body result m₁) :
    ∃ m', Works m body result m' := by
  cases h with
  | commit h | abort h => exact ⟨_, h⟩

/-- A map and a set admit one outcome of a list of transactions. -/
theorem transacts_all_unique {results results' : List (Except ε α)}
    (h : TransactsAll m bodies results m₁) (h' : TransactsAll m bodies results' m₂) :
    results = results' ∧ m₁ = m₂ := by
  induction h generalizing results' with
  | nil =>
      cases h'
      exact ⟨rfl, rfl⟩
  | cons hbody _ ih =>
      cases h' with
      | cons hbody' hrest' =>
          obtain ⟨rfl, rfl⟩ := transacts_unique hbody hbody'
          obtain ⟨rfl, rfl⟩ := ih hrest'
          exact ⟨rfl, rfl⟩

end Bindings

namespace Store

/-- One operation inside a transaction; one that fails leaves everything as it was. -/
def perform (s : Store) (op : StoreOperation) : Except ScriptFailure StoreAnswer × Store :=
  s.commit op.run

/-- The map and the set that a store stands for. -/
def bindings (s : Store) : Bindings := ⟨s.snatRow?, {b | s.isBound b.router b.agent}⟩

theorem bindings_empty : (∅ : Store).bindings = ∅ := by
  refine Bindings.ext rfl (Set.eq_empty_iff_forall_notMem.2 fun b hb => ?_)
  have hbound : (∅ : Store).isBound b.router b.agent := hb
  simp at hbound

theorem decide_mem_bindings (s : Store) (router agent : String)
    [Decidable ((⟨router, agent⟩ : HostBinding) ∈ s.bindings.hosts)] :
    decide ((⟨router, agent⟩ : HostBinding) ∈ s.bindings.hosts) = s.isBound router agent := by
  rw [Bool.eq_iff_iff, decide_eq_true_eq]
  exact Iff.rfl

theorem bindings_put_snat (s : Store) (b : SnatBinding) :
    (s.putSnat b).bindings =
      { s.bindings with snat := Function.update s.bindings.snat b.router (some b) } := by
  refine Bindings.ext (funext fun router => ?_) rfl
  show (s.putSnat b).snatRow? router = Function.update s.snatRow? b.router (some b) router
  rw [snat_row_put_snat, Function.update_apply]
  simp only [eq_comm]

theorem bindings_drop_snat (s : Store) (router : String) :
    (s.dropSnat router).bindings =
      { s.bindings with snat := Function.update s.bindings.snat router none } := by
  refine Bindings.ext (funext fun router' => ?_) rfl
  show (s.dropSnat router).snatRow? router' = Function.update s.snatRow? router none router'
  rw [snat_row_drop_snat, Function.update_apply]
  simp only [eq_comm]

theorem bindings_with_host (s : Store) (b : HostBinding) :
    (s.withHost b).bindings = { s.bindings with hosts := insert b s.bindings.hosts } := by
  refine Bindings.ext (funext fun router => snat_row_with_host s b router) (Set.ext fun c => ?_)
  show (s.withHost b).isBound c.router c.agent ↔ c = b ∨ s.isBound c.router c.agent
  rw [is_bound_with_host, Bool.or_eq_true, decide_eq_true_eq, eq_comm]

theorem bindings_drop_host (s : Store) (b : HostBinding) :
    (s.dropHost b).bindings = { s.bindings with hosts := s.bindings.hosts \ {b} } := by
  refine Bindings.ext rfl (Set.ext fun c => ?_)
  show (s.dropHost b).isBound c.router c.agent ↔ s.isBound c.router c.agent ∧ c ≠ b
  rw [is_bound_drop_host, Bool.and_eq_true, Bool.not_eq_true', decide_eq_false_iff_not, and_comm]
  exact and_congr_right fun _ => not_congr eq_comm

end Store

namespace Table.Written

variable {α : Type} {key toText : α → String} {ofText? : String → Option α}
  {t : Table String String}

/-- No key is found twice. -/
theorem keys_where_nodup (ht : Written key toText t) (hread : ∀ a, ofText? (toText a) = some a)
    {keep : α → Bool} {keys : List String}
    (h : Transaction.keysWhere ofText? t keep = .ok keys) : keys.Nodup := by
  obtain ⟨items, hscan, hkeys, -⟩ := ht.scan hread
  rw [Transaction.keysWhere, hscan] at h
  cases h
  have hnodup : t.keys.Nodup := List.pairwise_map.2 (t.increasing.imp fun {a b} hlt heq => by
    simp [heq] at hlt)
  have hsublist : (((items.map fun a => (key a, a)).filter fun row => keep row.2).map
      Prod.fst).Sublist (items.map key) := by
    have hall : (items.map fun a => (key a, a)).map Prod.fst = items.map key := List.map_map
    rw [← hall]
    exact List.filter_sublist.map Prod.fst
  exact hsublist.nodup (hkeys ▸ hnodup)

end Table.Written

namespace Store.Sound

variable {s : Store}

/-- A purge counts the SNAT and the host bindings of the agent. -/
theorem delete_agent_counts (hs : s.Sound) (agent : String) :
    ∃ s', Transaction.deleteAgent agent s =
        .ok (({router | (s.bindings.snat router).any (·.agent = agent)}.ncard,
          {b ∈ s.bindings.hosts | b.agent = agent}.ncard), s') := by
  obtain ⟨snat, hsnat, hmem_snat⟩ :=
    hs.snat.keys_where SnatBinding.of_text_to_text fun b => b.agent = agent
  obtain ⟨hosts, hhosts, hmem_hosts⟩ :=
    hs.hosts.keys_where HostBinding.of_text_to_text fun b => b.agent = agent
  have hsnat_nodup := hs.snat.keys_where_nodup SnatBinding.of_text_to_text hsnat
  have hhosts_nodup := hs.hosts.keys_where_nodup HostBinding.of_text_to_text hhosts
  have hsnat_count : {router | (s.bindings.snat router).any (·.agent = agent)}.ncard =
      snat.length := by
    rw [← List.toFinset_card_of_nodup hsnat_nodup, ← Set.ncard_coe_finset]
    congr 1
    ext router
    rw [List.coe_toFinset]
    exact (hmem_snat router).symm
  have hhosts_count : {b ∈ s.bindings.hosts | b.agent = agent}.ncard = hosts.length := by
    -- the keys found are the keys of the bindings of the agent
    rw [← Set.ncard_image_of_injective _ fun b c h => HostBinding.key_inj h,
      ← List.toFinset_card_of_nodup hhosts_nodup, ← Set.ncard_coe_finset]
    congr 1
    ext k
    rw [List.coe_toFinset]
    show k ∈ HostBinding.key '' _ ↔ k ∈ hosts
    rw [hmem_hosts]
    constructor
    · intro h
      obtain ⟨b, ⟨hb, hagent⟩, rfl⟩ := h
      rw [(hs.get_hosts_iff b).2 hb]
      simp [HostBinding.of_text_to_text, hagent]
    · intro h
      obtain ⟨b, hb, hagent⟩ := (Option.any_eq_true _ _).1 h
      obtain ⟨text, hget, htext⟩ := Option.bind_eq_some_iff.1 hb
      obtain ⟨c, hread, rfl, rfl⟩ := hs.hosts.decodes HostBinding.of_text_to_text hget
      obtain rfl : c = b := by simpa [hread] using htext
      exact ⟨c, ⟨(hs.get_hosts_iff c).1 hget, by simpa using hagent⟩, rfl⟩
  rw [hsnat_count, hhosts_count]
  exact ⟨_, Transaction.delete_agent_of_keys hsnat hhosts⟩

theorem perform_of_ok (op : StoreOperation) (answer : StoreAnswer) {s' : Store}
    (hrun : op.run s = .ok (answer, s'))
    (hperform : s.bindings.perform op = (.ok answer, s'.bindings)) (hs' : s'.Sound) :
    s.bindings.perform op = ((s.perform op).1, (s.perform op).2.bindings) ∧
      (s.perform op).2.Sound := by
  rw [Store.perform, Store.commit_of_ok hrun]
  exact ⟨hperform, hs'⟩

/-- An operation runs its transaction on the store and words the answer. -/
theorem run_apply {α : Type} (t : Transaction StoreError α) (answer : α → StoreAnswer)
    (s : Store) :
    (do return answer (← t.mapError .store) : Transaction ScriptFailure StoreAnswer) s =
      match t s with
      | .ok (a, s') => .ok (answer a, s')
      | .error e => .error (.store e) := by
  rw [Transaction.bind_apply, Transaction.map_error_apply]
  cases t s <;> rfl

theorem perform_insert_snat (hs : s.Sound) (b : SnatBinding) :
    s.bindings.perform (.insertSnat b) =
        ((s.perform (.insertSnat b)).1, (s.perform (.insertSnat b)).2.bindings) ∧
      (s.perform (.insertSnat b)).2.Sound := by
  have hrun := run_apply (Transaction.insertSnat b) (fun _ => .done) s
  rw [Transaction.insert_snat_sound hs] at hrun
  by_cases h : (s.snatRow? b.router).isSome
  · rw [if_pos h] at hrun
    rw [Store.perform, Store.commit_of_error (t := StoreOperation.run (.insertSnat b)) hrun]
    exact ⟨if_pos h, hs⟩
  · rw [if_neg h] at hrun
    refine perform_of_ok (.insertSnat b) .done hrun ?_ (hs.put_snat b)
    rw [Store.bindings_put_snat]
    exact if_neg h

theorem perform_delete_snat (hs : s.Sound) (router : String) (scope : Option String) :
    s.bindings.perform (.deleteSnat router scope) =
        ((s.perform (.deleteSnat router scope)).1,
          (s.perform (.deleteSnat router scope)).2.bindings) ∧
      (s.perform (.deleteSnat router scope)).2.Sound := by
  have hrun : StoreOperation.run (.deleteSnat router scope) s =
      match s.snatIn? router scope with
      | none => .ok (.snat none, s)
      | some b => .ok (.snat (some b), s.dropSnat router) := by
    rw [StoreOperation.run, run_apply, Transaction.delete_snat_sound hs]
    cases s.snatIn? router scope <;> rfl
  have hperform : s.bindings.perform (.deleteSnat router scope) =
      match s.snatIn? router scope with
      | none => (.ok (.snat none), s.bindings)
      | some b => (.ok (.snat (some b)),
        { s.bindings with snat := Function.update s.bindings.snat router none }) := rfl
  cases hrow : s.snatIn? router scope with
  | none =>
      rw [hrow] at hrun hperform
      exact perform_of_ok _ _ hrun hperform hs
  | some b =>
      rw [hrow] at hrun hperform
      refine perform_of_ok _ _ hrun ?_ (hs.drop_snat router)
      rw [hperform, Store.bindings_drop_snat]

theorem perform_purge (hs : s.Sound) (agent : String) :
    s.bindings.perform (.deleteAgent agent) =
        ((s.perform (.deleteAgent agent)).1, (s.perform (.deleteAgent agent)).2.bindings) ∧
      (s.perform (.deleteAgent agent)).2.Sound := by
  obtain ⟨counts, s', hpurge, hsound, hsnat, hbound⟩ := Transaction.delete_agent_sound hs agent
  obtain ⟨s'', hcounts⟩ := hs.delete_agent_counts agent
  obtain ⟨rfl, rfl⟩ : counts = _ ∧ s' = s'' := by simpa using hpurge.symm.trans hcounts
  have hrun := run_apply (Transaction.deleteAgent agent) (fun counts => .counts counts.1 counts.2) s
  rw [hpurge] at hrun
  refine perform_of_ok (.deleteAgent agent) _ hrun ?_ hsound
  refine Prod.ext rfl (Bindings.ext (funext fun router => (hsnat router).symm) ?_)
  refine Set.ext fun b => ?_
  show s.isBound b.router b.agent ∧ b.agent ≠ agent ↔ s'.isBound b.router b.agent
  rw [hbound, Bool.and_eq_true, decide_eq_true_eq, and_comm]

/-- An operation does to a sound store what it does to the map and the set, and keeps it sound. -/
theorem perform (hs : s.Sound) (op : StoreOperation) :
    s.bindings.perform op = ((s.perform op).1, (s.perform op).2.bindings) ∧
      (s.perform op).2.Sound := by
  cases op with
  | getSnat router =>
      refine perform_of_ok _ (.snat (s.snatRow? router)) ?_ rfl hs
      rw [StoreOperation.run, run_apply, Transaction.query_apply, hs.snat_of]
      rfl
  | insertSnat b => exact hs.perform_insert_snat b
  | deleteSnat router scope => exact hs.perform_delete_snat router scope
  | hasHost router agent =>
      refine perform_of_ok _ (.flag (s.isBound router agent)) ?_ ?_ hs
      · rw [StoreOperation.run, run_apply, Transaction.query_apply, hs.has_host]
        rfl
      · rw [Bindings.perform, Store.decide_mem_bindings]
  | insertHost router agent =>
      refine perform_of_ok _ (.flag !s.isBound router agent) ?_ ?_
        (hs.with_host ⟨router, agent⟩)
      · rw [StoreOperation.run, run_apply, Transaction.insert_host_eq]
      · rw [Bindings.perform, Store.decide_mem_bindings, Store.bindings_with_host]
  | deleteHost router agent =>
      refine perform_of_ok _ (.flag (s.isBound router agent)) ?_ ?_
        (hs.drop_host ⟨router, agent⟩)
      · rfl
      · rw [Bindings.perform, Store.decide_mem_bindings, Store.bindings_drop_host]
  | deleteAgent agent => exact hs.perform_purge agent
  | abort => exact ⟨rfl, hs⟩

end Store.Sound

/-! ## Transactions on the store -/

namespace Store

variable {ε α : Type}

/-- Runs transactions one after another, each as one unit: their results, and the store that is
left. -/
def transactAll : List (TransactionBody ε α) → Store → List (Except ε α) × Store
  | [], s => ([], s)
  | body :: bodies, s =>
    let (result, s) := s.commit body.transaction
    let (results, s) := transactAll bodies s
    (result :: results, s)

namespace Sound

variable {s : Store}

/-- Inside a transaction the store goes on as the map and the set do, up to its end. -/
theorem works (hs : s.Sound) (body : TransactionBody ε α) :
    (∀ a s', body.transaction s = .ok (a, s') →
      s.bindings.Works body (.ok a) s'.bindings ∧ s'.Sound) ∧
    ∀ e, body.transaction s = .error e → ∃ m, s.bindings.Works body (.error e) m := by
  induction body generalizing s with
  | finish result =>
      simp only [TransactionBody.finish_apply]
      cases result with
      | ok a =>
          constructor
          · intro a' s' h
            cases h
            exact ⟨.finish _ _, hs⟩
          · intro e h
            cases h
      | error e =>
          constructor
          · intro a s' h
            cases h
          · intro e' h
            cases h
            exact ⟨_, .finish _ _⟩
  | perform op next ih =>
      obtain ⟨hsquare, hsound⟩ := hs.perform op
      obtain ⟨hok, herror⟩ := ih (s.perform op).1 hsound
      -- the map and the set take the same step, and the body goes on with the same answer
      have hperform {result : Except ε α} {m : Bindings}
          (h : (s.perform op).2.bindings.Works (next (s.perform op).1) result m) :
          s.bindings.Works (.perform op next) result m := by
        refine .perform ?_
        rwa [hsquare]
      simp only [TransactionBody.perform_apply]
      refine ⟨fun a s' hrun => ?_, fun e hrun => ?_⟩
      · obtain ⟨hworks, hs'⟩ := hok a s' hrun
        exact ⟨hperform hworks, hs'⟩
      · obtain ⟨m, hworks⟩ := herror e hrun
        exact ⟨m, hperform hworks⟩

theorem transacts (hs : s.Sound) (body : TransactionBody ε α) :
    s.bindings.Transacts body (s.commit body.transaction).1
        (s.commit body.transaction).2.bindings ∧
      (s.commit body.transaction).2.Sound := by
  obtain ⟨hok, herror⟩ := hs.works body
  cases hrun : body.transaction s with
  | ok found =>
      obtain ⟨a, s'⟩ := found
      obtain ⟨hworks, hs'⟩ := hok a s' hrun
      rw [Store.commit_of_ok hrun]
      exact ⟨.commit hworks, hs'⟩
  | error e =>
      obtain ⟨m, hworks⟩ := herror e hrun
      rw [Store.commit_of_error hrun]
      exact ⟨.abort hworks, hs⟩

theorem transacts_all (hs : s.Sound) (bodies : List (TransactionBody ε α)) :
    s.bindings.TransactsAll bodies (s.transactAll bodies).1 (s.transactAll bodies).2.bindings ∧
      (s.transactAll bodies).2.Sound := by
  induction bodies generalizing s with
  | nil => exact ⟨.nil _, hs⟩
  | cons body bodies ih =>
      obtain ⟨hbody, hsound⟩ := hs.transacts body
      obtain ⟨hrest, hend⟩ := ih hsound
      exact ⟨.cons hbody hrest, hend⟩

end Sound

end Store

/-! ## Scripts -/

namespace Script

/-- A body that succeeds reports no failure, one that fails reports the failure that ended it. -/
theorem works_reports {m m' : Bindings} {ops : List StoreOperation} {answers : List StoreAnswer}
    {result : Except ScriptReport ScriptReport} (h : m.Works (body answers ops) result m') :
    (∃ report, result = .ok report ∧ report.failure = none) ∨
      ∃ report, result = .error report ∧ report.failure ≠ none := by
  induction ops generalizing m answers with
  | nil =>
      cases h
      exact .inl ⟨_, rfl, rfl⟩
  | cons op ops ih =>
      cases h with
      | perform h =>
          cases hanswer : (m.perform op).1 with
          | ok answer =>
              rw [hanswer] at h
              exact ih h
          | error e =>
              rw [hanswer] at h
              cases h
              exact .inr ⟨_, rfl, Option.some_ne_none e⟩

/-- A script does to a sound store what its body does to the map and the set, and reports a failure
exactly if the body is not committed. -/
theorem run_transacts {s : Store} (hs : s.Sound) (ops : List StoreOperation) :
    s.bindings.Transacts (body [] ops)
        (if (run ops s).1.failure = none then .ok (run ops s).1 else .error (run ops s).1)
        (run ops s).2.bindings ∧
      (run ops s).2.Sound := by
  obtain ⟨htransacts, hsound⟩ := hs.transacts (body [] ops)
  rcases hrun : s.commit (body [] ops).transaction with ⟨result, s'⟩
  rw [hrun] at htransacts hsound
  obtain ⟨m, hworks⟩ := htransacts.works
  rw [run, hrun]
  rcases works_reports hworks with ⟨report, rfl, hfine⟩ | ⟨report, rfl, hfailed⟩
  · rw [if_pos hfine]
    exact ⟨htransacts, hsound⟩
  · rw [if_neg hfailed]
    exact ⟨htransacts, hsound⟩

end Script

/-- What the queries of a store answer if it holds the bindings `m`. -/
structure Store.Shows (s : Store) (m : Bindings) : Prop where
  snat_of : ∀ router, s.snatOf? router = .ok (m.snat router)
  has_host : ∀ router agent, ∃ bound, s.hasHost router agent = .ok bound ∧
    (bound ↔ ⟨router, agent⟩ ∈ m.hosts)
  /-- The SNAT bindings are listed by strictly increasing router. -/
  snat_bindings : ∃ bs, s.snatBindings = .ok bs ∧
    (∀ router b, b ∈ bs ∧ b.router = router ↔ m.snat router = some b) ∧
    bs.Pairwise fun b c => b.router < c.router
  /-- The host bindings are listed once each. -/
  host_bindings : ∃ bs, s.hostBindings = .ok bs ∧ (∀ b, b ∈ bs ↔ b ∈ m.hosts) ∧ bs.Nodup
  /-- The host bindings of a router are listed by strictly increasing agent. -/
  hosts_of_router : ∀ router, ∃ bs, s.hostsOfRouter router = .ok bs ∧
    (∀ b, b ∈ bs ↔ b.router = router ∧ b ∈ m.hosts) ∧ bs.Pairwise fun b c => b.agent < c.agent
  hosts_of_agent : ∀ agent, ∃ bs, s.hostsOfAgent agent = .ok bs ∧
    (∀ b, b ∈ bs ↔ b.agent = agent ∧ b ∈ m.hosts) ∧ bs.Nodup
  /-- The report on a router is the part of the whole report that is about it. -/
  report : ∀ router, ∃ all, Report.collect s none = .ok all ∧
    Report.collect s (some router) =
      .ok ⟨all.snat.filter fun b => b.router = router,
        all.hosts.filter fun b => b.router = router⟩

theorem Store.Sound.shows {s : Store} (hs : s.Sound) : s.Shows s.bindings where
  snat_of := hs.snat_of
  has_host router agent := ⟨_, hs.has_host router agent, Iff.rfl⟩
  snat_bindings := hs.snat_bindings_increasing
  host_bindings := hs.host_bindings_nodup
  hosts_of_router := hs.hosts_of_router_increasing
  hosts_of_agent := hs.hosts_of_agent_nodup
  report := hs.report_of_router

/-- Over every list of transactions from a fresh store, a map and a set that begin empty admit one
outcome: its results are those of the store, and the store that is left shows the map and the set
that are left. -/
theorem store_refines_bindings {ε α : Type} (bodies : List (TransactionBody ε α)) :
    ∃ m, (∀ results m', Bindings.TransactsAll ∅ bodies results m' ↔
        results = (Store.transactAll bodies ∅).1 ∧ m' = m) ∧
      (Store.transactAll bodies ∅).2.Shows m := by
  obtain ⟨hall, hsound⟩ := Store.Sound.empty.transacts_all bodies
  rw [Store.bindings_empty] at hall
  refine ⟨_, fun results m' => ⟨fun h => ?_, fun h => ?_⟩, hsound.shows⟩
  · exact Bindings.transacts_all_unique h hall
  · obtain ⟨rfl, rfl⟩ := h
    exact hall

/-- A SNAT binding is stored and seen in its own transaction. A second one meets it and is rolled
back with the host binding before it; so is a release that is aborted. A transaction that takes no
offence at a failure is committed with the host binding behind it. -/
def contested : List (TransactionBody ScriptReport ScriptReport) :=
  [Script.body [] [.insertSnat ⟨"r1", "a1", "h1", none⟩, .getSnat "r1"],
    Script.body [] [.insertHost "r1" "a2", .insertSnat ⟨"r1", "a2", "h2", none⟩],
    Script.body [] [.deleteSnat "r1" none, .getSnat "r1", .abort],
    .perform (.insertSnat ⟨"r1", "a3", "h3", none⟩) fun _ =>
      Script.body [] [.insertHost "r1" "a3", .hasHost "r1" "a2"]]

theorem store_refines_bindings_contested :
    (Store.transactAll contested ∅).1 =
        [.ok ⟨[.done, .snat (some ⟨"r1", "a1", "h1", none⟩)], none⟩,
          .error ⟨[.flag true], some (.store (.duplicateSnat "r1"))⟩,
          .error ⟨[.snat (some ⟨"r1", "a1", "h1", none⟩), .snat none], some .aborted⟩,
          .ok ⟨[.flag true, .flag false], none⟩] ∧
      ∃ m, Bindings.TransactsAll ∅ contested (Store.transactAll contested ∅).1 m ∧
        (Store.transactAll contested ∅).2.Shows m ∧
        m.snat "r1" = some ⟨"r1", "a1", "h1", none⟩ ∧
        ⟨"r1", "a2"⟩ ∉ m.hosts ∧ ⟨"r1", "a3"⟩ ∈ m.hosts := by
  obtain ⟨m, hall, hshows⟩ := store_refines_bindings contested
  have hsnat : (Store.transactAll contested ∅).2.snatOf? "r1" =
      .ok (some ⟨"r1", "a1", "h1", none⟩) := by decide +kernel
  have hlost : (Store.transactAll contested ∅).2.hasHost "r1" "a2" = .ok false := by
    decide +kernel
  have hkept : (Store.transactAll contested ∅).2.hasHost "r1" "a3" = .ok true := by
    decide +kernel
  refine ⟨by decide +kernel, m, (hall _ m).2 ⟨rfl, rfl⟩, hshows, ?_, fun h => ?_, ?_⟩
  · exact Except.ok.inj ((hshows.snat_of "r1").symm.trans hsnat)
  · obtain ⟨bound, hhas, hiff⟩ := hshows.has_host "r1" "a2"
    rw [hlost] at hhas
    cases hhas
    cases hiff.2 h
  · obtain ⟨bound, hhas, hiff⟩ := hshows.has_host "r1" "a3"
    rw [hkept] at hhas
    cases hhas
    exact hiff.1 rfl

end RouterBinding
