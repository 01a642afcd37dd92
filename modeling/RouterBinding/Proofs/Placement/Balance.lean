import RouterBinding.Proofs.Placement.LeastLoaded

/-!
# Routers spread evenly

Routers that are placed one after another on the agent with the fewest of them never pile up:
`Spread` is kept by each placement (`Spread.place`), and so by any number of them
(`Spread.place_all`). `placement_spreads` puts this together with what a single placement does.
-/

namespace RouterBinding

/-- A store that transactions make of a fresh one. -/
inductive Store.Reached : Store → Prop where
  | fresh : Reached ∅
  | transact {ε α : Type} {s : Store} (hs : Reached s) (body : TransactionBody ε α) :
      Reached (s.commit body.transaction).2

theorem Store.Reached.sound {s : Store} (hs : s.Reached) : s.Sound := by
  induction hs with
  | fresh => exact .empty
  | transact _ body ih => exact (ih.transacts body).2

/-- An active agent with an id is in the directory. -/
def Directory.HasActive (d : Directory) (id : String) : Prop :=
  ∃ a ∈ d.agents.values, a.isActive ∧ a.id = id

/-- Some routers are spread evenly over the active agents of a directory. -/
structure Store.Spread (d : Directory) (s : Store) (routers : List String) : Prop where
  /-- Each of the routers is bound to exactly one agent. -/
  sole : ∀ router ∈ routers, ∃! id, ⟨router, id⟩ ∈ s.bindings.hosts
  /-- No other router is bound, and only active agents have routers. -/
  only : ∀ b ∈ s.bindings.hosts, b.router ∈ routers ∧ d.HasActive b.agent
  /-- The numbers of routers of two active agents differ by at most one. -/
  even : ∀ id other, d.HasActive id → d.HasActive other →
    s.routerCount id ≤ s.routerCount other + 1

namespace Store.Spread

variable {d : Directory} {s : Store} {routers : List String} {router id : String}

theorem of_hosts_empty (hs : s.hosts = ∅) : s.Spread d [] := by
  have hnone : ∀ b, b ∉ s.bindings.hosts := by
    intro b hb
    have hbound : s.hosts.contains b.key = true := hb
    rw [hs] at hbound
    cases hbound
  have hcount : ∀ agent, s.routerCount agent = 0 := by
    intro agent
    have hset : {b ∈ s.bindings.hosts | b.agent = agent} = ∅ :=
      Set.eq_empty_iff_forall_notMem.2 fun b hb => hnone b hb.1
    rw [routerCount, hset, Set.ncard_empty]
  exact {
    sole := fun router hrouter => absurd hrouter List.not_mem_nil
    only := fun b hb => absurd hb (hnone b)
    even := fun id other _ _ => by rw [hcount, hcount]; exact Nat.zero_le _ }

/-- A further router on an agent with the fewest routers keeps them spread. -/
theorem put_host (h : s.Spread d routers) (hs : s.Sound) (hnew : router ∉ routers)
    (hid : d.HasActive id)
    (hleast : ∀ other, d.HasActive other → s.routerCount id ≤ s.routerCount other) :
    (s.putHost ⟨router, id⟩).Spread d (routers ++ [router]) := by
  have hunbound : ∀ agent, (⟨router, agent⟩ : HostBinding) ∉ s.bindings.hosts :=
    fun agent hbound => hnew (h.only _ hbound).1
  have hmem : ∀ b : HostBinding, b ∈ (s.putHost ⟨router, id⟩).bindings.hosts ↔
      b = ⟨router, id⟩ ∨ b ∈ s.bindings.hosts := by
    intro b
    show (s.putHost ⟨router, id⟩).isBound b.router b.agent = true ↔ _
    rw [is_bound_put_host, Bool.or_eq_true, decide_eq_true_eq]
    exact or_congr_left eq_comm
  have hcount := fun agent => hs.router_count_put_host (hunbound id) agent
  refine ⟨fun r hr => ?_, fun b hb => ?_, fun x y hx hy => ?_⟩
  · rcases List.mem_append.1 hr with hr | hr
    · -- a router that was there keeps its agent
      obtain ⟨agent, hagent, hsole⟩ := h.sole r hr
      refine ⟨agent, (hmem _).2 (.inr hagent), fun other hother => ?_⟩
      rcases (hmem _).1 hother with heq | hold
      · cases heq
        exact absurd hr hnew
      · exact hsole other hold
    · obtain rfl := List.mem_singleton.1 hr
      refine ⟨id, (hmem _).2 (.inl rfl), fun other hother => ?_⟩
      rcases (hmem _).1 hother with heq | hold
      · cases heq
        rfl
      · exact absurd hold (hunbound other)
  · rcases (hmem b).1 hb with rfl | hold
    · exact ⟨List.mem_append_right _ (List.mem_singleton_self _), hid⟩
    · exact ⟨List.mem_append_left _ (h.only b hold).1, (h.only b hold).2⟩
  · -- the agent that takes the router had no more of them than the others
    have hxy := h.even x y hx hy
    have hleast_y := hleast y hy
    rw [hcount, hcount]
    by_cases hidx : id = x
    · subst hidx
      rw [if_pos rfl]
      omega
    · rw [if_neg hidx]
      omega

end Store.Spread

namespace Controller

open RouterBinding.Action

/-- Places routers one after another, each on any active agent. -/
def placeAll (routers : List String) : Action (List (Option String)) :=
  routers.mapM fun router => place router []

variable {c : Controller} {placed routers : List String} {router : String}

/-- The first router is placed, and then the others. -/
theorem run_on_place_all_cons {c' c'' : Controller} {answer : Option String}
    {answers : List (Option String)} (hfirst : (place router []).runOn c = (.ok answer, c'))
    (hrest : (placeAll routers).runOn c' = (.ok answers, c'')) :
    (placeAll (router :: routers)).runOn c = (.ok (answer :: answers), c'') := by
  rw [placeAll] at hrest ⊢
  rw [List.mapM_cons, run_on_bind, hfirst]
  simp only
  rw [run_on_bind, hrest]
  rfl

/-- Every active agent is available to a router that is bound nowhere. -/
theorem available_iff_active (hspread : c.store.Spread c.directory placed)
    (hnew : router ∉ placed) {a : Agent} :
    c.Available router [] a ↔ a ∈ c.directory.agents.values ∧ a.isActive := by
  refine ⟨fun h => ⟨?_, h.active⟩, fun ⟨hlisted, hactive⟩ => ⟨?_, hactive, fun hbound => ?_⟩⟩
  · simpa [InPool] using h.listed
  · simpa [InPool] using hlisted
  · exact hnew (hspread.only _ hbound).1

/-- Placing a further router keeps the routers spread. -/
theorem place_spread (hs : c.store.Sound) (hup : Service.agents ∉ c.directory.outages)
    (hactive : ∃ id, c.directory.HasActive id) (hspread : c.store.Spread c.directory placed)
    (hnew : router ∉ placed) :
    ∃ id, (place router []).runOn c =
        (.ok (some id), { c with store := c.store.putHost ⟨router, id⟩ }) ∧
      (c.store.putHost ⟨router, id⟩).Spread c.directory (placed ++ [router]) := by
  obtain ⟨-, a, hlisted, hup_a, rfl⟩ := hactive
  have havailable : ∃ a, c.Available router [] a :=
    ⟨a, (available_iff_active hspread hnew).2 ⟨hlisted, hup_a⟩⟩
  obtain ⟨id, hchosen, hrun⟩ := place_placed hs (fun _ => hup) havailable
  refine ⟨id, hrun, hspread.put_host hs hnew ?_ ?_⟩
  · obtain ⟨b, hb, rfl⟩ := hchosen.available
    obtain ⟨hb_listed, hb_active⟩ := (available_iff_active hspread hnew).1 hb
    exact ⟨b, hb_listed, hb_active, rfl⟩
  · rintro other ⟨b, hb_listed, hb_active, rfl⟩
    have hle := hchosen.least b ((available_iff_active hspread hnew).2 ⟨hb_listed, hb_active⟩)
    rcases (Prod.Lex.le_iff).1 hle with hlt | ⟨heq, -⟩
    · exact hlt.le
    · exact heq.le

/-- An answer names an agent that the router is bound to. -/
def Answered (s : Store) (router : String) (answer : Option String) : Prop :=
  ∃ id, answer = some id ∧ ⟨router, id⟩ ∈ s.bindings.hosts

/-- Placing any number of further routers keeps the routers spread. -/
theorem place_all_spread (hup : Service.agents ∉ c.directory.outages)
    (hactive : ∃ id, c.directory.HasActive id) (hs : c.store.Sound)
    (hspread : c.store.Spread c.directory placed) (hnodup : (placed ++ routers).Nodup) :
    ∃ answers s, (placeAll routers).runOn c = (.ok answers, { c with store := s }) ∧
      s.snat = c.store.snat ∧ c.store.bindings.hosts ⊆ s.bindings.hosts ∧
      List.Forall₂ (Answered s) routers answers ∧ s.Spread c.directory (placed ++ routers) := by
  induction routers generalizing c placed with
  | nil =>
      rw [List.append_nil]
      exact ⟨[], c.store, rfl, rfl, subset_rfl, .nil, hspread⟩
  | cons router routers ih =>
      have hnew : router ∉ placed := fun hmem =>
        (List.nodup_append.1 hnodup).2.2 router hmem router List.mem_cons_self rfl
      obtain ⟨id, hrun, hplaced⟩ := place_spread hs hup hactive hspread hnew
      rw [List.append_cons] at hnodup ⊢
      obtain ⟨answers, s, hrest, hsnat, hsubset, hanswers, hall⟩ :=
        ih (c := { c with store := c.store.putHost ⟨router, id⟩ }) hup hactive
          (hs.put_host _) hplaced hnodup
      have hkept : ∀ b, b = ⟨router, id⟩ ∨ b ∈ c.store.bindings.hosts →
          b ∈ (c.store.putHost ⟨router, id⟩).bindings.hosts := by
        intro b hb
        show (c.store.putHost ⟨router, id⟩).isBound b.router b.agent = true
        rw [Store.is_bound_put_host, Bool.or_eq_true, decide_eq_true_eq]
        exact hb.imp_left Eq.symm
      exact ⟨some id :: answers, s, run_on_place_all_cons hrun hrest, hsnat,
        fun b hb => hsubset (hkept b (.inr hb)),
        .cons ⟨id, rfl, hsubset (hkept _ (.inl rfl))⟩ hanswers, hall⟩

/-- Without active agents no router is placed. -/
theorem place_all_none (hup : Service.agents ∉ c.directory.outages)
    (hactive : ¬∃ id, c.directory.HasActive id) (hs : c.store.Sound) (routers : List String) :
    (placeAll routers).runOn c = (.ok (routers.map fun _ => none), c) := by
  induction routers with
  | nil => rfl
  | cons router routers ih =>
      have hnone : ¬∃ a, c.Available router [] a := by
        rintro ⟨a, ha⟩
        have hlisted : a ∈ c.directory.agents.values := by simpa [InPool] using ha.listed
        exact hactive ⟨a.id, a, hlisted, ha.active, rfl⟩
      exact run_on_place_all_cons (place_none hs (fun _ => hup) hnone) ih

/-- Over every store that transactions make, a router is placed exactly if an active agent of the
pool is not bound to it: then it is added on the one of them that is first by the number of its
routers and its id, and otherwise nothing changes. Routers that are placed one after another from
an empty table of host bindings are bound to one agent each, and the numbers of routers of two
active agents differ by at most one. Where the directory does not list its agents a placement
without candidates fails and changes nothing. -/
theorem placement_spreads (hreached : c.store.Reached) :
    (∀ router candidates, c.PoolAnswers candidates →
      ((∃ a, c.Available router candidates a) →
        ∃ id, c.Chosen router candidates id ∧ (place router candidates).runOn c =
          (.ok (some id), { c with store := c.store.putHost ⟨router, id⟩ })) ∧
      ((¬∃ a, c.Available router candidates a) →
        (place router candidates).runOn c = (.ok none, c))) ∧
    (∀ router candidates, ¬c.PoolAnswers candidates →
      (place router candidates).runOn c = (.error (ofFault (.unavailable .agents)), c)) ∧
    (c.store.hosts = ∅ → Service.agents ∉ c.directory.outages →
      ∀ routers : List String, routers.Nodup →
        ((∃ id, c.directory.HasActive id) →
          ∃ answers s, (placeAll routers).runOn c = (.ok answers, { c with store := s }) ∧
            s.snat = c.store.snat ∧ List.Forall₂ (Answered s) routers answers ∧
            s.Spread c.directory routers) ∧
        ((¬∃ id, c.directory.HasActive id) →
          (placeAll routers).runOn c = (.ok (routers.map fun _ => none), c))) := by
  have hs := hreached.sound
  refine ⟨fun router candidates hpool => ⟨place_placed hs hpool, place_none hs hpool⟩,
    fun router candidates hpool => ?_,
    fun hempty hup routers hnodup => ⟨fun hactive => ?_, fun hnone => ?_⟩⟩
  · unfold PoolAnswers at hpool
    push Not at hpool
    obtain ⟨rfl, hout⟩ := hpool
    exact place_unanswered hout router
  · obtain ⟨answers, s, hrun, hsnat, -, hanswers, hspread⟩ :=
      place_all_spread hup hactive hs (.of_hosts_empty hempty) hnodup
    exact ⟨answers, s, hrun, hsnat, hanswers, hspread⟩
  · exact place_all_none hup hnone hs routers

end Controller

namespace TwoHosts

def agent : Agent := .reporting "a1" "h1" "dvr"

def spare : Agent := .reporting "a2" "h2" "dvr"

def directory : Directory := ((∅ : Directory).putAgent agent).putAgent spare

/-- No router is bound to either agent. -/
def idle : Controller := ⟨directory, ∅, .ofSeed 0, []⟩

/-- A router is bound to the first agent. -/
def busy : Controller := { idle with store := (∅ : Store).putHost ⟨"r0", "a1"⟩ }

theorem idle_reached : idle.store.Reached := .fresh

theorem busy_reached : busy.store.Reached :=
  .transact .fresh (Script.body [] [.insertHost "r0" "a1"])

theorem agents : directory.agents.values = [agent, spare] := rfl

theorem spare_available : busy.Available "r1" [] spare where
  listed := by
    show spare ∈ directory.agents.values
    rw [agents]
    exact List.mem_cons_of_mem _ (List.mem_singleton_self _)
  active := rfl
  unbound := by
    show ¬((∅ : Store).putHost ⟨"r0", "a1"⟩).isBound "r1" "a2" = true
    simp [Store.is_bound_put_host]

theorem has_active : directory.HasActive "a1" := ⟨agent, agents ▸ List.mem_cons_self, rfl, rfl⟩

end TwoHosts

namespace Controller

open RouterBinding.Action TwoHosts in
theorem placement_spreads_two_hosts :
    (busy.store.Reached ∧ busy.PoolAnswers [] ∧ busy.Available "r1" [] spare ∧
      ∃ id, busy.Chosen "r1" [] id ∧ (place "r1" []).runOn busy =
        (.ok (some id), { busy with store := busy.store.putHost ⟨"r1", id⟩ })) ∧
    idle.store.Reached ∧ idle.store.hosts = ∅ ∧ Service.agents ∉ idle.directory.outages ∧
      ["r1", "r2", "r3"].Nodup ∧ idle.directory.HasActive "a1" ∧
      ∃ answers s, (placeAll ["r1", "r2", "r3"]).runOn idle =
          (.ok answers, { idle with store := s }) ∧
        s.snat = idle.store.snat ∧ List.Forall₂ (Answered s) ["r1", "r2", "r3"] answers ∧
        s.Spread idle.directory ["r1", "r2", "r3"] := by
  have hpool : busy.PoolAnswers [] := fun _ => List.not_mem_nil
  have hup : Service.agents ∉ idle.directory.outages := List.not_mem_nil
  have hnodup : ["r1", "r2", "r3"].Nodup := by decide
  have hplaced := ((placement_spreads busy_reached).1 "r1" [] hpool).1 ⟨spare, spare_available⟩
  have hspread := ((placement_spreads idle_reached).2.2 rfl hup _ hnodup).1 ⟨"a1", has_active⟩
  exact ⟨⟨busy_reached, hpool, spare_available, hplaced⟩, idle_reached, rfl, hup, hnodup,
    has_active, hspread⟩

end Controller

end RouterBinding
