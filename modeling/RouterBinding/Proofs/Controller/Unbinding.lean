import RouterBinding.Proofs.Controller.Effect

/-!
# How the removal of a router from an agent ends

`Controller.Removes` has one case for each way in which the removal of a router from an agent ends,
whatever the store holds and whichever services are out. What a removal leaves alone, and what it
does to a router without gateway, follows from the cases.
-/

namespace RouterBinding

namespace Controller

open RouterBinding.Action

variable {c c' : Controller} {ctx : Context} {agent router : String}

/-- A router that the directory answers is found. -/
theorem known_router_found {id : String} {r : Router}
    (hfound : c.directory.router? id = .ok (some r)) :
    (knownRouter id).runOn c = (.ok r, c) := by
  rw [knownRouter, run_on_bind, run_on_ask, hfound]
  rfl

/-- The SNAT binding that a router gives up when it is removed from an agent: the router is known,
distributed and has a gateway, and the binding names the agent. -/
structure GivesUp (c : Controller) (agent router : String) (b : SnatBinding) : Prop where
  translated : ∃ r, c.directory.router? router = .ok (some r) ∧ r.distributed ∧ r.hasGateway
  row : c.store.snatOf? router = .ok (some b)
  names : b.agent = agent

/-- How the removal of a router from an agent ends, and the controller it leaves. -/
inductive Removes (c : Controller) (ctx : Context) (agent router : String) :
    Except ControllerError Unit → Controller → Prop where
  | unknown {e : ControllerError} (hunknown : ∀ r, c.directory.router? router ≠ .ok (some r)) :
      Removes c ctx agent router (.error e) c
  /-- The row of a router with a gateway does not decode. -/
  | unreadable {e : ControllerError} {r : Router}
      (hfound : c.directory.router? router = .ok (some r)) (hgateway : r.hasGateway)
      (hrow : ∀ row, c.store.snatOf? router ≠ .ok row) : Removes c ctx agent router (.error e) c
  /-- Whether ports need the router is not answered. -/
  | unanswered {e : ControllerError} {b : SnatBinding} (hgives : c.GivesUp agent router b)
      (hneeded : ∀ needed, c.directory.needsRouter ctx b.host router none ≠ .ok needed) :
      Removes c ctx agent router (.error e) c
  | kept {b : SnatBinding} (hgives : c.GivesUp agent router b)
      (hneeded : c.directory.needsRouter ctx b.host router none = .ok true) :
      Removes c ctx agent router (.ok ())
        { c with
          store := c.store.dropSnat router
          sent := c.sent ++ [.routersUpdated [router] false] }
  | released {b : SnatBinding} (hgives : c.GivesUp agent router b)
      (hneeded : c.directory.needsRouter ctx b.host router none = .ok false) :
      Removes c ctx agent router (.ok ())
        { c with
          store := (c.store.dropSnat router).dropHost ⟨router, agent⟩
          sent := c.sent ++ [.routerRemoved router b.host] }
  /-- There is no SNAT binding to give up. The host binding is gone even where an outage hides the
  agent that is to be told. -/
  | unbound {answer : Except ControllerError Unit} {r : Router} {told : List Notice}
      (hfound : c.directory.router? router = .ok (some r))
      (hgives : ∀ b, ¬c.GivesUp agent router b)
      (hanswer : answer = .ok () ∨ Service.agent ∈ c.directory.outages) :
      Removes c ctx agent router answer
        { c with store := c.store.dropHost ⟨router, agent⟩, sent := c.sent ++ told }

/-- A router without gateway has no SNAT binding to give up. -/
theorem not_gives_up {r : Router}
    (hfound : c.directory.router? router = .ok (some r)) (hgateway : r.hasGateway = false)
    (agent : String) (b : SnatBinding) : ¬c.GivesUp agent router b := by
  rintro ⟨⟨r', hfound', -, hgateway'⟩, -, -⟩
  obtain rfl : r = r' := by simpa [hfound] using hfound'
  rw [hgateway] at hgateway'
  cases hgateway'

/-- Where no SNAT binding is given up the router is unbound from the agent. -/
theorem remove_host_removes {r : Router} (hfound : c.directory.router? router = .ok (some r))
    (hgives : ∀ b, ¬c.GivesUp agent router b) :
    c.Removes ctx agent router ((removeHost agent router).runOn c).1
      ((removeHost agent router).runOn c).2 := by
  obtain ⟨answer, told, hrun, hanswer⟩ := run_on_remove_host agent router c
  rw [hrun]
  exact .unbound hfound hgives hanswer

/-- The removal of a router from an agent ends in one of these ways. -/
theorem remove_router_removes (ctx : Context) (agent router : String) (c : Controller) :
    c.Removes ctx agent router ((removeRouter ctx agent router).runOn c).1
      ((removeRouter ctx agent router).runOn c).2 := by
  rcases hfound : c.directory.router? router with e | _ | r
  · rw [removeRouter, knownRouter, run_on_bind, run_on_bind, run_on_ask, hfound]
    exact .unknown fun r h => by simp [hfound] at h
  · rw [removeRouter, knownRouter, run_on_bind, run_on_bind, run_on_ask, hfound]
    exact .unknown fun r h => by simp [hfound] at h
  rw [removeRouter, run_on_bind, known_router_found hfound]
  simp only
  by_cases htranslated : (r.hasGateway && r.distributed) = true
  · obtain ⟨hgateway, hdistributed⟩ := Bool.and_eq_true_iff.1 htranslated
    rw [if_pos htranslated, run_on_bind, run_on_release_snat_node_eq, Store.snatScoped?]
    rcases hrow : c.store.snatOf? router with e | _ | b
    · exact .unreadable hfound hgateway fun row h => by simp [hrow] at h
    · refine remove_host_removes hfound fun b hgives => ?_
      have hrow' := hgives.row
      simp [hrow] at hrow'
    · by_cases hnames : agent = b.agent
      · have hgives : c.GivesUp agent router b :=
          ⟨⟨r, hfound, hdistributed, hgateway⟩, hrow, hnames.symm⟩
        subst hnames
        simp only [Except.map, Option.filter_some, Option.all_some, decide_true, if_true]
        rcases hneeded : c.directory.needsRouter ctx b.host router none with e | _ | _
        · exact .unanswered hgives fun needed h => by simp [hneeded] at h
        · exact .released hgives hneeded
        · exact .kept hgives hneeded
      · simp only [Except.map, Option.filter_some, Option.all_some, hnames, decide_false,
          Bool.false_eq_true, if_false]
        refine remove_host_removes hfound fun b' hgives => ?_
        obtain rfl : b = b' := by simpa [hrow] using hgives.row
        exact hnames hgives.names.symm
  · rw [if_neg htranslated]
    refine remove_host_removes hfound fun b hgives => htranslated ?_
    obtain ⟨r', hfound', hdistributed, hgateway⟩ := hgives.translated
    obtain rfl : r = r' := by simpa [hfound] using hfound'
    rw [hdistributed, hgateway]
    rfl

namespace Removes

variable {answer : Except ControllerError Unit}

theorem directory_eq (h : c.Removes ctx agent router answer c') :
    c'.directory = c.directory := by
  cases h <;> rfl

/-- Only the row of the router can go. -/
theorem snat_elsewhere (h : c.Removes ctx agent router answer c') {id : String}
    (hother : id ≠ router) : c'.store.snat.get? id = c.store.snat.get? id := by
  cases h with
  | unknown | unreadable | unanswered | unbound => rfl
  | kept | released => exact Table.get_erase_of_ne _ hother.symm

/-- Only the host binding of the router and the agent can go. -/
theorem hosts_elsewhere (h : c.Removes ctx agent router answer c') {key : String}
    (hother : key ≠ HostBinding.key ⟨router, agent⟩) :
    c'.store.hosts.get? key = c.store.hosts.get? key := by
  cases h with
  | unknown | unreadable | unanswered | kept => rfl
  | released | unbound => exact Table.get_erase_of_ne _ hother.symm

/-- A removal that is tried takes the host binding of a known router without gateway, however it
ends, and of no other one. -/
theorem is_bound_iff (h : c.Removes ctx agent router answer c') {id other : String} {r : Router}
    (hfound : c.directory.router? id = .ok (some r)) (hgateway : r.hasGateway = false) :
    c'.store.isBound id other ↔ c.store.isBound id other ∧ ¬(router = id ∧ agent = other) := by
  by_cases hsame : router = id ∧ agent = other
  · obtain ⟨rfl, rfl⟩ := hsame
    cases h with
    | unknown hunknown => exact absurd hfound (hunknown r)
    | @unreadable e r' hfound' hgateway' hrow =>
        obtain rfl : r = r' := by simpa [hfound] using hfound'
        rw [hgateway] at hgateway'
        cases hgateway'
    | unanswered hgives | kept hgives | released hgives =>
        exact absurd hgives (not_gives_up hfound hgateway _ _)
    | unbound => simp [Store.is_bound_drop_host]
  · have hkey : HostBinding.key ⟨id, other⟩ ≠ HostBinding.key ⟨router, agent⟩ := by
      intro hkey
      cases HostBinding.key_inj hkey
      exact hsame ⟨rfl, rfl⟩
    rw [Store.isBound, Table.contains, h.hosts_elsewhere hkey]
    exact (and_iff_left hsame).symm

end Removes

end Controller

end RouterBinding
