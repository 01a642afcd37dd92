import RouterBinding.Proofs.Controller.Presence
import RouterBinding.Proofs.Controller.Request
import RouterBinding.Proofs.Controller.Respects

/-!
# Requests as one unit

A request is `Atomic` if it has changed nothing when it fails, whatever the store holds: rows that
do not decode, and rows under a key that is not theirs. For most requests that is so because only
one transaction changes something and nothing can fail after it; the rules of `Quiet`, `Sure` and
`Atomic` follow the parts of a request.

Bringing routers to a host is not one transaction: each router is bound by its own, and the table is
read in between. It is one unit all the same (`ensure_hosts_atomic`). Before a router is bound the
rows are listed, so all of them decode by then (`place_one_cases`). The row that is added decodes
too, and nothing that is read from there on can fail (`ensure_hosts_decode`).
-/

namespace RouterBinding

/-- A controller differs from another at most in the words drawn for choices. -/
structure Controller.Unchanged (c c' : Controller) : Prop where
  directory : c'.directory = c.directory
  store : c'.store = c.store
  sent : c'.sent = c.sent

namespace Controller.Unchanged

theorem refl (c : Controller) : c.Unchanged c := ⟨rfl, rfl, rfl⟩

theorem trans {c c' c'' : Controller} (h : c.Unchanged c') (h' : c'.Unchanged c'') :
    c.Unchanged c'' :=
  ⟨h'.directory.trans h.directory, h'.store.trans h.store, h'.sent.trans h.sent⟩

instance : Std.Refl Controller.Unchanged := ⟨refl⟩

instance : IsTrans Controller Controller.Unchanged := ⟨fun _ _ _ => trans⟩

end Controller.Unchanged

namespace Action

variable {α β : Type} {d : Directory}

/-- Whether it answers or fails, a request changes nothing. -/
abbrev Quiet (a : Action α) : Prop := Respects Controller.Unchanged a

/-- A request answers and leaves the directory alone. -/
def Sure (d : Directory) (a : Action α) : Prop :=
  ∀ c, c.directory = d → ∃ x c', a.runOn c = (.ok x, c') ∧ c'.directory = d

/-- A request that fails changes nothing, and one that answers leaves the directory alone. -/
def Atomic (d : Directory) (a : Action α) : Prop :=
  ∀ c, c.directory = d → (a.runOn c).2.directory = d ∧
    ∀ e, (a.runOn c).1 = .error e → c.Unchanged (a.runOn c).2

namespace Quiet

theorem choose_one (items : List α) : Quiet (Controller.chooseOne items) := fun _ => ⟨rfl, rfl, rfl⟩

theorem atomic {a : Action α} (ha : Quiet a) : Atomic d a :=
  fun c hc => ⟨(ha c).directory.trans hc, fun _ _ => ha c⟩

end Quiet

namespace Sure

theorem pure (x : α) : Sure d (pure x) := fun c hc => ⟨x, c, rfl, hc⟩

theorem notify (n : Notice) : Sure d (notify n) := fun _ hc => ⟨(), _, rfl, hc⟩

/-- A question that the directory answers. -/
theorem ask {question : Directory → Except Fault α} {x : α} (h : question d = .ok x) :
    Sure d (ask question) := by
  intro c hc
  refine ⟨x, c, ?_, hc⟩
  rw [run_on_ask, hc, h]
  rfl

theorem bind {a : Action α} {f : α → Action β} (ha : Sure d a) (hf : ∀ x, Sure d (f x)) :
    Sure d (a >>= f) := by
  intro c hc
  obtain ⟨x, c', hrun, hc'⟩ := ha c hc
  obtain ⟨y, c'', hrun', hc''⟩ := hf x c' hc'
  exact ⟨y, c'', by rw [run_on_bind, hrun]; exact hrun', hc''⟩

end Sure

namespace Atomic

theorem pure (x : α) : Atomic d (pure x : Action α) := Quiet.atomic (.pure x)

theorem commit (t : Transaction ControllerError α) : Atomic d (commit t) := by
  intro c hc
  refine ⟨hc, fun e h => ⟨rfl, ?_, rfl⟩⟩
  rw [run_on_commit] at h ⊢
  unfold Store.commit at h ⊢
  cases hrun : t c.store with
  | error e' => rfl
  | ok answer =>
      rw [hrun] at h
      cases h

/-- After a request that is one unit comes one that cannot fail, or else the first one changed
nothing on its way there. -/
theorem bind_of {a : Action α} {f : α → Action β} (ha : Atomic d a)
    (hf : ∀ x, Sure d (f x) ∨
      Atomic d (f x) ∧ ∀ c c', a.runOn c = (.ok x, c') → c.Unchanged c') :
    Atomic d (a >>= f) := by
  intro c hc
  obtain ⟨hdirectory, herror⟩ := ha c hc
  rw [run_on_bind]
  rcases hrun : a.runOn c with ⟨e | x, c'⟩
  · rw [hrun] at hdirectory herror
    exact ⟨hdirectory, fun _ _ => herror e rfl⟩
  · rw [hrun] at hdirectory
    rcases hf x with hsure | ⟨hatomic, hsame⟩
    · obtain ⟨y, c'', hrun', hc''⟩ := hsure c' hdirectory
      simp only [hrun']
      exact ⟨hc'', fun e h => by cases h⟩
    · obtain ⟨hdirectory', herror'⟩ := hatomic c' hdirectory
      exact ⟨hdirectory', fun e h => (hsame c c' hrun).trans (herror' e h)⟩

theorem before {a : Action α} {f : α → Action β} (ha : Atomic d a) (hf : ∀ x, Sure d (f x)) :
    Atomic d (a >>= f) :=
  ha.bind_of fun x => .inl (hf x)

theorem after {a : Action α} {f : α → Action β} (ha : Quiet a) (hf : ∀ x, Atomic d (f x)) :
    Atomic d (a >>= f) :=
  ha.atomic.bind_of fun x => .inr ⟨hf x, fun c c' hrun => by
    have hsame := ha c
    rwa [hrun] at hsame⟩

theorem ite {p : Prop} [Decidable p] {a b : Action α} (ha : Atomic d a) (hb : Atomic d b) :
    Atomic d (if p then a else b) := by
  split
  · exact ha
  · exact hb

theorem discard {a : Action α} (ha : Atomic d a) : Atomic d (discard a) :=
  ha.before fun _ => .pure ()

end Atomic

end Action

namespace Controller

open RouterBinding.Action

variable {d : Directory}

/-! ## Requests of one transaction -/

theorem place_atomic (router : String) (candidates : List Agent) :
    Atomic d (place router candidates) := by
  refine .after (.pool candidates) fun agents => .after (.consult _) fun chosen => ?_
  cases chosen with
  | none => exact .pure none
  | some agent => exact (Atomic.commit _).before fun _ => .pure (some agent)

theorem bind_host_atomic (agent : Agent) (router : Router) : Atomic d (bindHost agent router) :=
  (Atomic.commit _).before fun _ => .pure ()

/-- Telling an agent that it lost a router cannot fail, so unbinding it is one unit. -/
theorem remove_host_atomic (hd : d.Serving) (agent router : String) :
    Atomic d (removeHost agent router) := by
  refine (Atomic.commit _).before fun existed => ?_
  cases existed with
  | false => exact .pure ()
  | true =>
      refine (Sure.ask (hd.ask_ok .agent (d.agents.get? agent))).bind fun found => ?_
      cases found with
      | none => exact .pure ()
      | some a => exact .notify _

theorem bind_chosen_atomic (router : Router) (agent : Agent) :
    Atomic d (bindChosen router agent) := by
  intro c hc
  refine ⟨by rw [bind_chosen_store]; exact hc, fun e h => ?_⟩
  rw [bind_chosen_store]
  refine ⟨rfl, ?_, rfl⟩
  have h : (bindChosen router agent c).1 = .error e := h
  unfold bindChosen Store.commit at h
  unfold Store.commit
  rcases hrun : Transaction.bindSnat router agent c.store with e' | ⟨_, s⟩
  · rfl
  · rw [hrun] at h
    cases h

theorem schedule_snat_atomic (router : Router) : Atomic d (scheduleSnat router) := by
  unfold scheduleSnat
  refine .ite (.pure _) (.after (.ask _) fun active => ?_)
  refine .ite (.pure _) (.after (.choose_one _) fun chosen => ?_)
  cases chosen with
  | none => exact .pure _
  | some agent => exact bind_chosen_atomic router agent

theorem release_node_atomic (ctx : Context) (router : String) (b : SnatBinding) :
    Atomic d (releaseNode ctx router b) :=
  .after .get fun _ => .commit _

theorem release_snat_node_atomic (ctx : Context) (router : String) (scope : Option String) :
    Atomic d (releaseSnatNode ctx router scope) :=
  .after .get fun _ => .commit _

theorem notify_node_sure (router : String) (node : NodeOutcome) :
    Sure d (notifyNode router node) := by
  cases node with
  | kept host => exact .pure ()
  | removed host => exact .notify _

theorem notify_released_sure (router : String) (node : NodeOutcome) :
    Sure d (notifyReleased router node) := by
  cases node <;> exact .notify _

theorem unschedule_atomic (ctx : Context) (router : String) (agents : List String) :
    Atomic d (unschedule ctx router agents) := by
  refine .after (.known_router router) fun r => .ite (.commit _) ?_
  refine (release_snat_node_atomic ctx router none).before fun release => ?_
  cases release with
  | none => exact .pure ()
  | some release => exact notify_node_sure router release.node

theorem bind_router_atomic (agent : Agent) (router : Router) :
    Atomic d (bindRouter agent router) :=
  .ite (.commit _) (bind_host_atomic agent router)

/-- A release that finds nothing has changed nothing, whatever the rows are. -/
theorem release_snat_node_idle {ctx : Context} {router : String} {scope : Option String}
    {c c' : Controller} (h : (releaseSnatNode ctx router scope).runOn c = (.ok none, c')) :
    c' = c := by
  rw [run_on_release_snat_node_eq] at h
  rcases hrow : c.store.snatScoped? router scope with e | _ | b <;> rw [hrow] at h
  · cases h
  · cases h
    rfl
  · -- a row that is dropped is answered, so the answer is not `none`
    simp only at h
    rcases hneeds : c.directory.needsRouter ctx b.host router none with e | _ | _ <;>
      rw [hneeds] at h <;> cases h

theorem remove_router_atomic (hd : d.Serving) (ctx : Context) (agent router : String) :
    Atomic d (removeRouter ctx agent router) := by
  refine .after (.known_router router) fun r => .ite ?_ (remove_host_atomic hd agent router)
  refine (release_snat_node_atomic ctx router (some agent)).bind_of fun release => ?_
  cases release with
  | some release => exact .inl (notify_released_sure router release.node)
  | none =>
      refine .inr ⟨remove_host_atomic hd agent router, fun c c' hrun => ?_⟩
      rw [release_snat_node_idle hrun]
      exact .refl c

theorem reconcile_gateway_atomic (router : Router) : Atomic d (reconcileGateway router) := by
  refine (schedule_snat_atomic router).before fun outcome => ?_
  cases outcome with
  | bound agent => exact .notify _
  | noGateway => exact .pure ()
  | noActiveAgents => exact .pure ()
  | noCandidates => exact .pure ()
  | alreadyBound => exact .pure ()

theorem reconcile_no_gateway_atomic (ctx : Context) (router : Router) (id : String) :
    Atomic d (reconcileNoGateway ctx router id) := by
  refine (release_snat_node_atomic ctx id none).before fun release => ?_
  rcases release with _ | ⟨b, host | host⟩
  · exact .pure ()
  · exact .notify _
  · exact .notify _

theorem reconcile_atomic (ctx : Context) (router : String) :
    Atomic d (reconcile ctx router) := by
  refine .after (.known_router router) fun r => .ite (.after (.consult _) fun row => ?_)
    (.pure ())
  cases r.hasGateway <;> cases row
  · exact .pure ()
  · exact reconcile_no_gateway_atomic ctx r router
  · exact reconcile_gateway_atomic r
  · exact .pure ()

end Controller

/-! ## Requests that read between transactions -/

theorem map_m_ok_iff {ε α β : Type} {f : α → Except ε β} {items : List α} :
    (∃ found, items.mapM f = .ok found) ↔ ∀ x ∈ items, ∃ y, f x = .ok y := by
  induction items with
  | nil => simp [pure, Except.pure]
  | cons x items ih =>
      rw [List.mapM_cons, List.forall_mem_cons, ← ih]
      cases f x with
      | error e => simp [bind, Except.bind]
      | ok y => cases items.mapM f <;> simp [bind, Except.bind, pure, Except.pure]

namespace Store

/-- Every row of the host bindings decodes, under whatever key it is. -/
def HostsDecode (s : Store) : Prop :=
  ∀ row ∈ s.hosts.rows, ∃ b, HostBinding.ofText? row.2 = some b

theorem decoded_ok_iff {α : Type} {ofText? : String → Option α} {text : String} :
    (∃ a, decoded ofText? text = .ok a) ↔ ∃ a, ofText? text = some a := by
  unfold decoded
  cases ofText? text <;> simp

/-- A table is listed exactly if every row decodes. -/
theorem scan_ok_iff {α : Type} {ofText? : String → Option α} {t : Table String String} :
    (∃ rows, scan ofText? t = .ok rows) ↔ ∀ row ∈ t.rows, ∃ a, ofText? row.2 = some a := by
  unfold scan
  rw [map_m_ok_iff]
  refine forall₂_congr fun row _ => ?_
  rw [← decoded_ok_iff]
  cases decoded ofText? row.2 <;> simp [Except.map]

theorem select_hosts_ok_iff {s : Store} (keep : HostBinding → Bool) :
    (∃ bs, select HostBinding.ofText? s.hosts keep = .ok bs) ↔ s.HostsDecode := by
  rw [HostsDecode, ← scan_ok_iff, select]
  cases scan HostBinding.ofText? s.hosts <;> simp [Except.map]

namespace HostsDecode

variable {s : Store}

theorem with_host (hs : s.HostsDecode) (b : HostBinding) : (s.withHost b).HostsDecode := by
  unfold withHost
  split
  · exact hs
  · intro row hrow
    rcases Table.mem_place hrow with rfl | hold
    · exact ⟨b, HostBinding.of_text_to_text b⟩
    · exact hs row hold

theorem has_host (hs : s.HostsDecode) (router agent : String) :
    ∃ bound, s.hasHost router agent = .ok bound := by
  unfold hasHost row?
  cases hget : s.hosts.get? (HostBinding.key ⟨router, agent⟩) with
  | none => exact ⟨false, rfl⟩
  | some text =>
      obtain ⟨b, hb⟩ := hs (_, text) ((Table.mem_rows_iff s.hosts).2 hget)
      exact ⟨true, by simp [decoded, hb, Except.map]⟩

theorem least_loaded (hs : s.HostsDecode) (router : String) (pool : List Agent) :
    ∃ chosen, s.leastLoaded? router pool = .ok chosen := by
  obtain ⟨bound, hbound⟩ :=
    (select_hosts_ok_iff fun b => b.router = router).2 hs
  have hload : ∀ agent : Agent, ∃ ranked : Nat × String,
      (do return (← s.load agent.id, agent.id) : Except StoreError (Nat × String)) =
        .ok ranked := by
    intro agent
    obtain ⟨bs, hbs⟩ := (select_hosts_ok_iff fun b => b.agent = agent.id).2 hs
    refine ⟨(bs.length, agent.id), ?_⟩
    rw [load, hostsOfAgent, hbs]
    rfl
  let free := pool.filter fun agent : Agent => bound.all fun b => b.agent ≠ agent.id
  obtain ⟨agents, hagents⟩ := map_m_ok_iff.2 fun agent (_ : agent ∈ free) => hload agent
  have hranked : s.ranked router pool = .ok agents := by
    rw [ranked, hostsOfRouter, hbound]
    exact hagents
  refine ⟨(first agents).map Prod.snd, ?_⟩
  rw [leastLoaded?, hranked]
  rfl

end HostsDecode

/-- An agent is chosen only once all host bindings are listed. -/
theorem hosts_decode_of_least_loaded {s : Store} {router : String} {pool : List Agent}
    {chosen : Option String} (h : s.leastLoaded? router pool = .ok chosen) : s.HostsDecode := by
  refine (select_hosts_ok_iff fun b => b.router = router).1 ?_
  rw [leastLoaded?, ranked, hostsOfRouter] at h
  cases hbound : select HostBinding.ofText? s.hosts fun b => b.router = router with
  | ok bound => exact ⟨bound, rfl⟩
  | error e =>
      rw [hbound] at h
      cases h

end Store

namespace Controller

open RouterBinding.Action

variable {d : Directory} {c : Controller}

/-- Placing a router on one agent fails or leaves everything alone, unless all host bindings decode:
then it does not fail, and may add one. -/
theorem place_one_cases (router : String) (agent : Agent) (c : Controller) :
    (¬ c.store.HostsDecode ∧ ∃ e, (place router [agent]).runOn c = (.error e, c)) ∨
      c.store.HostsDecode ∧ ∃ placed s, s.HostsDecode ∧
        (place router [agent]).runOn c = (.ok placed, { c with store := s }) := by
  rw [run_on_place_one]
  cases hchosen : c.store.leastLoaded? router ([agent].filter (·.isActive)) with
  | error e =>
      refine .inl ⟨fun hs => ?_, _, rfl⟩
      obtain ⟨chosen, hok⟩ := hs.least_loaded router ([agent].filter (·.isActive))
      rw [hok] at hchosen
      cases hchosen
  | ok chosen =>
      have hs := Store.hosts_decode_of_least_loaded hchosen
      refine .inr ⟨hs, ?_⟩
      cases chosen with
      | none => exact ⟨none, c.store, hs, rfl⟩
      | some id => exact ⟨some id, c.store.withHost ⟨router, id⟩, hs.with_host _, rfl⟩

/-- A router is ensured without a change, or else all host bindings decode before and after. -/
theorem ensure_host_cases (agent : Agent) (router : String) (c : Controller) :
    (¬ c.store.HostsDecode ∧ ∃ answer, (ensureHost agent router).runOn c = (answer, c)) ∨
      c.store.HostsDecode ∧ ∃ s, s.HostsDecode ∧
        (ensureHost agent router).runOn c = (.ok (), { c with store := s }) := by
  rw [ensureHost, run_on_bind, run_on_consult]
  cases hbound : c.store.hasHost router agent.id with
  | error e =>
      refine .inl ⟨fun hs => ?_, _, rfl⟩
      obtain ⟨bound, hok⟩ := hs.has_host router agent.id
      rw [hok] at hbound
      cases hbound
  | ok bound =>
      cases bound with
      | true =>
          by_cases hs : c.store.HostsDecode
          · exact .inr ⟨hs, c.store, hs, rfl⟩
          · exact .inl ⟨hs, _, rfl⟩
      | false =>
          simp only [map_error_ok, Bool.not_false, if_true]
          rw [run_on_bind]
          rcases place_one_cases router agent c with ⟨hs, e, hrun⟩ | ⟨hs, placed, s, hs', hrun⟩
          · exact .inl ⟨hs, _, by rw [hrun]⟩
          · exact .inr ⟨hs, s, hs', by rw [hrun]; rfl⟩

/-- Once all host bindings decode nothing stands in the way of the remaining routers. -/
theorem ensure_hosts_decode (agent : Agent) (routers : List String) {c : Controller}
    (hs : c.store.HostsDecode) :
    ∃ s, (routers.forM (ensureHost agent)).runOn c = (.ok (), { c with store := s }) := by
  induction routers generalizing c with
  | nil => exact ⟨c.store, rfl⟩
  | cons r routers ih =>
      show ∃ s, (ensureHost agent r >>= fun _ => routers.forM (ensureHost agent)).runOn c = _
      obtain ⟨hnot, -⟩ | ⟨-, s, hs', hrun⟩ := ensure_host_cases agent r c
      · exact absurd hs hnot
      · rw [run_on_bind, hrun]
        exact ih (c := { c with store := s }) hs'

/-- Routers are ensured one transaction after another, and still as one unit. -/
theorem ensure_hosts_atomic (agent : Agent) (routers : List String) :
    Atomic d (routers.forM (ensureHost agent)) := by
  intro c hc
  by_cases hs : c.store.HostsDecode
  · obtain ⟨s, hrun⟩ := ensure_hosts_decode agent routers hs
    rw [hrun]
    exact ⟨hc, fun e h => by cases h⟩
  · -- as long as a row does not decode nothing is added
    have hsame : ∃ answer, (routers.forM (ensureHost agent)).runOn c = (answer, c) := by
      induction routers with
      | nil => exact ⟨_, rfl⟩
      | cons r routers ih =>
          show ∃ answer, (ensureHost agent r >>= fun _ =>
            routers.forM (ensureHost agent)).runOn c = _
          obtain ⟨-, answer, hrun⟩ | ⟨hdecode, -⟩ := ensure_host_cases agent r c
          · rw [run_on_bind, hrun]
            cases answer with
            | error e => exact ⟨_, rfl⟩
            | ok _ => exact ih
          · exact absurd hdecode hs
    obtain ⟨answer, hrun⟩ := hsame
    rw [hrun]
    exact ⟨hc, fun _ _ => .refl c⟩

theorem bring_routers_atomic (ctx : Context) (port : Port) : Atomic d (bringRouters ctx port) := by
  unfold bringRouters
  cases port.host with
  | none => exact .pure _
  | some host =>
      refine .after (.ask _) fun found => ?_
      cases found with
      | none => exact .pure _
      | some agent =>
          refine .after (.ask _) fun routers => ?_
          refine (ensure_hosts_atomic agent routers).before fun _ => ?_
          split
          · exact (Sure.notify _).bind fun _ => .pure routers
          · exact .pure routers

theorem refresh_arp_sure (port : Port) (action : ArpAction) : Sure d (refreshArp port action) := by
  unfold refreshArp
  split
  · exact .notify _
  · exact .pure ()

theorem port_created_atomic (ctx : Context) (port : Port) : Atomic d (portCreated ctx port) :=
  .ite ((bring_routers_atomic ctx port).before fun _ => refresh_arp_sure port .add)
    (.pure ())

end Controller

end RouterBinding
