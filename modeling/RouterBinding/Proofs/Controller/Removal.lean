import RouterBinding.Proofs.Controller.Presence
import RouterBinding.Proofs.Controller.Request
import RouterBinding.Proofs.Controller.Unbinding

/-!
# Removing routers, while the directory serves

What removing routers from agents does to the store when the directory serves and the store is
sound. Removing one router fails only if the router is not known (`remove_router_serving`), and a
list of removals is carried out up to the first unknown router (`remove_routers_serving`).
-/

namespace RouterBinding

namespace Directory

/-- Whether a router is known. -/
def knows (d : Directory) (router : String) : Bool := d.routers.contains router

theorem knows_of_found {d : Directory} {router : String} {r : Router}
    (h : d.routers.get? router = some r) : d.knows router = true := by
  rw [knows, Table.contains, h]
  rfl

/-- The removals of a list that are carried out: those before the first unknown router. -/
def carriedOut (d : Directory) (rs : List Removal) : List Removal :=
  rs.takeWhile fun q => d.knows q.router

/-- How a list of removals ends: the first router that is not known stops it. -/
def removed (d : Directory) (rs : List Removal) : Except ControllerError Unit :=
  match rs.find? fun q => !d.knows q.router with
  | none => .ok ()
  | some q => .error (.routerNotFound q.router)

end Directory

namespace Store

/-- The SNAT binding that the removal of a router from an agent gives up: that of a distributed
router with a gateway, if it names the agent. -/
def givenUp? (s : Store) (d : Directory) (router agent : String) : Option SnatBinding :=
  match d.routers.get? router with
  | none => none
  | some r => if r.hasGateway && r.distributed then s.snatIn? router (some agent) else none

/-- The store after the removal of a router from an agent. -/
def removal (s : Store) (d : Directory) (ctx : Context) (router agent : String) : Store :=
  match s.givenUp? d router agent with
  | some b => if d.needs ctx b.host router none then s.dropSnat router else s.withoutSnatNode b
  | none => s.dropHost ⟨router, agent⟩

/-- The store after a list of removals. -/
def removals (s : Store) (d : Directory) (ctx : Context) (rs : List Removal) : Store :=
  (d.carriedOut rs).foldl (fun s q => s.removal d ctx q.router q.agent) s

variable {s : Store} {d : Directory} {ctx : Context}

theorem given_up_some {router agent : String} {b : SnatBinding}
    (h : s.givenUp? d router agent = some b) : s.snatIn? router (some agent) = some b := by
  unfold givenUp? at h
  split at h
  · cases h
  split at h
  · exact h
  · cases h

theorem Sound.removal (hs : s.Sound) (router agent : String) :
    (s.removal d ctx router agent).Sound := by
  unfold Store.removal
  split
  · split
    · exact hs.drop_snat router
    · exact hs.without_snat_node _
  · exact hs.drop_host _

/-- A removal takes the SNAT binding that it gives up, and no other. -/
theorem snat_row_removal (hs : s.Sound) (router agent id : String) :
    (s.removal d ctx router agent).snatRow? id =
      if router = id ∧ (s.givenUp? d router agent).isSome then none else s.snatRow? id := by
  unfold Store.removal
  cases hgiven : s.givenUp? d router agent with
  | none => simp
  | some b =>
      have hrouter := hs.router_of_snat_row (snat_in_some (given_up_some hgiven))
      simp only [Option.isSome_some, and_true]
      split
      · exact snat_row_drop_snat s router id
      · rw [snat_row_without_snat_node, hrouter]

/-- Where no SNAT binding is given up the removal unbinds the router from the agent. -/
theorem is_bound_removal {router agent : String} (h : s.givenUp? d router agent = none)
    (id other : String) :
    (s.removal d ctx router agent).isBound id other =
      (!decide (router = id ∧ agent = other) && s.isBound id other) := by
  unfold Store.removal
  rw [h, is_bound_drop_host]
  simp

@[simp] theorem removals_nil : s.removals d ctx [] = s := rfl

theorem removals_cons_known {q : Removal} {rs : List Removal} (h : d.knows q.router = true) :
    s.removals d ctx (q :: rs) = (s.removal d ctx q.router q.agent).removals d ctx rs := by
  simp [removals, Directory.carriedOut, h]

theorem removals_cons_unknown {q : Removal} {rs : List Removal} (h : d.knows q.router = false) :
    s.removals d ctx (q :: rs) = s := by
  simp [removals, Directory.carriedOut, h]

theorem Sound.removals (hs : s.Sound) (rs : List Removal) : (s.removals d ctx rs).Sound := by
  induction rs generalizing s with
  | nil => exact hs
  | cons q rs ih =>
      cases hknown : d.knows q.router with
      | false => rwa [removals_cons_unknown hknown]
      | true =>
          rw [removals_cons_known hknown]
          exact ih (hs.removal q.router q.agent)

theorem given_up_congr {s' : Store} {router agent : String}
    (h : s'.snatRow? router = s.snatRow? router) :
    s'.givenUp? d router agent = s.givenUp? d router agent := by
  unfold givenUp? snatIn?
  rw [h]

/-- A distributed router with a gateway gives up the SNAT binding that names the agent. -/
theorem given_up_translated {r : Router} {router agent : String}
    (hr : d.routers.get? router = some r) (hdistributed : r.distributed)
    (hgateway : r.hasGateway) : s.givenUp? d router agent = s.snatIn? router (some agent) := by
  simp [givenUp?, hr, hdistributed, hgateway]

/-- A router without gateway gives up no SNAT binding. -/
theorem given_up_no_gateway {r : Router} {router agent : String}
    (hr : d.routers.get? router = some r) (hgateway : r.hasGateway = false) :
    s.givenUp? d router agent = none := by
  simp [givenUp?, hr, hgateway]

/-- Removals of known routers without gateway unbind those and no others. -/
theorem is_bound_removals {rs : List Removal}
    (hrs : ∀ q ∈ rs, ∃ r, d.routers.get? q.router = some r ∧ r.hasGateway = false)
    (router agent : String) :
    (s.removals d ctx rs).isBound router agent ↔
      s.isBound router agent ∧ ¬∃ q ∈ rs, q.router = router ∧ q.agent = agent := by
  induction rs generalizing s with
  | nil => simp
  | cons q rs ih =>
      obtain ⟨r, hr, hgateway⟩ := hrs q List.mem_cons_self
      rw [removals_cons_known (Directory.knows_of_found hr),
        ih fun q hq => hrs q (List.mem_cons_of_mem _ hq),
        is_bound_removal (given_up_no_gateway hr hgateway)]
      simp only [Bool.and_eq_true, Bool.not_eq_true', decide_eq_false_iff_not, List.mem_cons,
        exists_eq_or_imp, not_or]
      constructor
      · rintro ⟨⟨hother, hbound⟩, hrest⟩
        exact ⟨hbound, hother, hrest⟩
      · rintro ⟨hbound, hother, hrest⟩
        exact ⟨⟨hother, hbound⟩, hrest⟩

/-- The removal of a router from an agent keeps the host binding: it gives up the SNAT binding, and
serviced ports need the router on the host. -/
def KeepsHost (s : Store) (d : Directory) (ctx : Context) (router agent : String) : Prop :=
  ∃ b, s.givenUp? d router agent = some b ∧ d.needs ctx b.host router none

theorem keeps_host_congr {s' : Store} {router agent : String}
    (h : s'.snatRow? router = s.snatRow? router) :
    s'.KeepsHost d ctx router agent ↔ s.KeepsHost d ctx router agent := by
  unfold KeepsHost
  rw [given_up_congr h]

/-- A removal takes the host binding, unless it keeps it, and no other. -/
theorem is_bound_removal_iff (hs : s.Sound) (router agent id other : String) :
    (s.removal d ctx router agent).isBound id other ↔ s.isBound id other ∧
      ¬(router = id ∧ agent = other ∧ ¬s.KeepsHost d ctx router agent) := by
  unfold Store.removal KeepsHost
  cases hgiven : s.givenUp? d router agent with
  | none => simp [is_bound_drop_host, and_comm, imp_iff_not_or]
  | some b =>
      have hin := given_up_some hgiven
      have hrouter := hs.router_of_snat_row (snat_in_some hin)
      have hagent : agent = b.agent := by
        simpa [snatIn?] using (Option.filter_eq_some_iff.1 hin).2
      simp only
      split
      next hneeds => simp [hneeds]
      next hneeds =>
        simp [is_bound_without_snat_node, hneeds, hrouter, ← hagent, and_comm, imp_iff_not_or]

/-- Removals of known routers, each of them named once, take the host bindings that they do not
keep, and no others. -/
theorem is_bound_removals_iff (hs : s.Sound) {rs : List Removal}
    (hknown : ∀ q ∈ rs, d.knows q.router)
    (hpair : rs.Pairwise fun q q' => q.router ≠ q'.router) (id other : String) :
    (s.removals d ctx rs).isBound id other ↔ s.isBound id other ∧
      ¬∃ q ∈ rs, q.router = id ∧ q.agent = other ∧ ¬s.KeepsHost d ctx id other := by
  induction rs generalizing s with
  | nil => simp
  | cons q rs ih =>
      obtain ⟨hhead, htail⟩ := List.pairwise_cons.1 hpair
      rw [removals_cons_known (hknown q List.mem_cons_self),
        ih (hs.removal q.router q.agent) (fun q' hq' => hknown q' (List.mem_cons_of_mem _ hq'))
          htail,
        is_bound_removal_iff hs, and_assoc]
      simp only [List.mem_cons, exists_eq_or_imp, not_or]
      refine and_congr_right fun _ => and_congr ?_ (not_congr (exists_congr fun q' => ?_))
      · refine not_congr (and_congr_right fun hid => and_congr_right fun hother => ?_)
        rw [hid, hother]
      · refine and_congr_right fun hq' => and_congr_right fun hid => and_congr_right fun _ => ?_
        -- the head names another router, whose SNAT binding is no matter here
        have hother : q.router ≠ id := fun h => hhead q' hq' (h.trans hid.symm)
        refine not_congr (keeps_host_congr ?_)
        rw [snat_row_removal hs, if_neg fun h => hother h.1]

/-- Removals take the SNAT bindings that those carried out give up, and no others. -/
theorem snat_row_removals (hs : s.Sound) (rs : List Removal) (id : String) :
    (s.removals d ctx rs).snatRow? id =
      if ∃ q ∈ d.carriedOut rs, q.router = id ∧ (s.givenUp? d id q.agent).isSome then none
      else s.snatRow? id := by
  induction rs generalizing s with
  | nil => simp [Directory.carriedOut]
  | cons q rs ih =>
      cases hknown : d.knows q.router with
      | false => simp [removals_cons_unknown hknown, Directory.carriedOut, hknown]
      | true =>
          have hrow : (s.removal d ctx q.router q.agent).snatRow? id = _ :=
            snat_row_removal hs q.router q.agent id
          have hcarried : d.carriedOut (q :: rs) = q :: d.carriedOut rs := by
            simp [Directory.carriedOut, hknown]
          rw [removals_cons_known hknown, ih (hs.removal q.router q.agent), hcarried]
          -- once the head has given the binding up, the rest finds none to give up
          by_cases hgiven : q.router = id ∧ (s.givenUp? d q.router q.agent).isSome
          · rw [if_pos hgiven] at hrow
            obtain ⟨rfl, hsome⟩ := hgiven
            rw [hrow, ite_self, if_pos ⟨q, List.mem_cons_self, rfl, hsome⟩]
          · rw [if_neg hgiven] at hrow
            have hhead : (∃ q' ∈ q :: d.carriedOut rs,
                q'.router = id ∧ (s.givenUp? d id q'.agent).isSome) ↔
                ∃ q' ∈ d.carriedOut rs, q'.router = id ∧ (s.givenUp? d id q'.agent).isSome := by
              constructor
              · rintro ⟨q', hmem, h⟩
                rcases List.mem_cons.1 hmem with rfl | hmem
                · exact absurd ⟨h.1, h.1 ▸ h.2⟩ hgiven
                · exact ⟨q', hmem, h⟩
              · rintro ⟨q', hmem, h⟩
                exact ⟨q', List.mem_cons_of_mem _ hmem, h⟩
            simp only [given_up_congr hrow, hrow, hhead]

end Store

namespace Directory

variable {d : Directory} {q : Removal} {rs : List Removal}

theorem removed_cons_known (h : d.knows q.router = true) : d.removed (q :: rs) = d.removed rs := by
  simp [removed, h]

theorem removed_cons_unknown (h : d.knows q.router = false) :
    d.removed (q :: rs) = .error (.routerNotFound q.router) := by
  simp [removed, h]

/-- Removals end well exactly if all their routers are known. -/
theorem removed_eq_ok_iff : d.removed rs = .ok () ↔ ∀ q ∈ rs, d.knows q.router := by
  induction rs with
  | nil => simp [removed]
  | cons q rs ih =>
      cases hknown : d.knows q.router with
      | false => simp [removed_cons_unknown hknown, hknown]
      | true => simp [removed_cons_known hknown, hknown, ih]

end Directory

namespace Controller

open RouterBinding.Action

variable {c : Controller}

theorem known_router_serving (hd : c.directory.Serving) (id : String) :
    (knownRouter id).runOn c =
      (match c.directory.routers.get? id with
        | some r => .ok r
        | none => .error (.routerNotFound id), c) := by
  rw [knownRouter, run_on_bind, run_on_ask, hd.router_of]
  cases c.directory.routers.get? id <;> rfl

/-- Unbinding a router from an agent does just that, whoever is told. -/
theorem remove_host_serving (hd : c.directory.Serving) (agent router : String) :
    ∃ sent, (removeHost agent router).runOn c =
      (.ok (), { c with store := c.store.dropHost ⟨router, agent⟩, sent := sent }) := by
  obtain ⟨answer, told, hrun, hanswer⟩ := run_on_remove_host agent router c
  obtain rfl : answer = .ok () := hanswer.resolve_right (by simp [hd.up])
  exact ⟨_, hrun⟩

/-- In a sound store a router gives up the binding that the row under its id holds. -/
theorem gives_up_iff (hd : c.directory.Serving) (hs : c.store.Sound) {agent router : String}
    {b : SnatBinding} :
    c.GivesUp agent router b ↔ c.store.givenUp? c.directory router agent = some b := by
  constructor
  · rintro ⟨⟨r, hr, hdistributed, hgateway⟩, hrow, hnames⟩
    rw [hd.router_of] at hr
    rw [hs.snat_of] at hrow
    rw [Store.given_up_translated (Except.ok.inj hr) hdistributed hgateway, Store.snatIn?,
      Except.ok.inj hrow]
    simp [Option.filter_some, hnames]
  · intro hgiven
    have hin := Store.given_up_some hgiven
    refine ⟨?_, ?_, ?_⟩
    · unfold Store.givenUp? at hgiven
      cases hr : c.directory.routers.get? router with
      | none => simp [hr] at hgiven
      | some r =>
          have htranslated : r.hasGateway ∧ r.distributed := by
            by_contra hnot
            simp [hr, hnot] at hgiven
          exact ⟨r, by rw [hd.router_of, hr], htranslated.2, htranslated.1⟩
    · rw [hs.snat_of, Store.snat_in_some hin]
    · simpa [Store.snatIn?, eq_comm] using (Option.filter_eq_some_iff.1 hin).2

theorem remove_router_unknown (hd : c.directory.Serving) (ctx : Context) (agent : String)
    {router : String} (h : c.directory.knows router = false) :
    (removeRouter ctx agent router).runOn c = (.error (.routerNotFound router), c) := by
  have hnone : c.directory.routers.get? router = none := by
    simpa [Directory.knows, Table.contains] using h
  rw [removeRouter, run_on_bind, known_router_serving hd, hnone]

/-- A known router is removed: with the SNAT binding that it gives up, or from the host. -/
theorem remove_router_serving (hd : c.directory.Serving) (hs : c.store.Sound) (ctx : Context)
    (agent : String) {router : String} (h : c.directory.knows router = true) :
    ∃ sent, (removeRouter ctx agent router).runOn c =
      (.ok (), { c with store := c.store.removal c.directory ctx router agent, sent := sent }) := by
  obtain ⟨r, hr⟩ := Option.isSome_iff_exists.1 h
  have hfound : c.directory.router? router = .ok (some r) := by rw [hd.router_of, hr]
  have hremoves := remove_router_removes ctx agent router c
  rcases hrun : (removeRouter ctx agent router).runOn c with ⟨answer, c'⟩
  rw [hrun] at hremoves
  have hneeds : ∀ {host : String} {needed : Bool},
      c.directory.needsRouter ctx host router none = .ok needed →
        c.directory.needs ctx host router none = needed := by
    intro host needed hneeded
    rw [hd.needs_router] at hneeded
    exact Except.ok.inj hneeded
  unfold Store.removal
  cases hremoves with
  | unknown hunknown => exact absurd hfound (hunknown r)
  | unreadable _ _ hrow => exact absurd (hs.snat_of router) (hrow _)
  | unanswered _ hneeded => exact absurd (hd.needs_router ctx _ router none) (hneeded _)
  | kept hgives hneeded =>
      rw [(gives_up_iff hd hs).1 hgives]
      simp only [hneeds hneeded, if_true]
      exact ⟨_, rfl⟩
  | released hgives hneeded =>
      rw [(gives_up_iff hd hs).1 hgives]
      simp only [hneeds hneeded, Bool.false_eq_true, if_false]
      -- in a sound store the row names the router and the agent
      have hrow : c.store.snatRow? router = some _ :=
        Store.snat_in_some (Store.given_up_some ((gives_up_iff hd hs).1 hgives))
      obtain rfl := hs.router_of_snat_row hrow
      obtain rfl := hgives.names
      exact ⟨_, rfl⟩
  | unbound _ hgives hanswer =>
      obtain rfl : answer = .ok () := hanswer.resolve_right (by simp [hd.up])
      have hnone : c.store.givenUp? c.directory router agent = none :=
        Option.eq_none_iff_forall_ne_some.2 fun b hgiven =>
          hgives b ((gives_up_iff hd hs).2 hgiven)
      rw [hnone]
      exact ⟨_, rfl⟩

/-- Removals are carried out up to the first router that is not known. -/
theorem remove_routers_serving (ctx : Context) (rs : List Removal) {c : Controller}
    (hd : c.directory.Serving) (hs : c.store.Sound) :
    ∃ sent, (rs.forM fun q => removeRouter ctx q.agent q.router).runOn c =
      (c.directory.removed rs,
        { c with store := c.store.removals c.directory ctx rs, sent := sent }) := by
  induction rs generalizing c with
  | nil => exact ⟨c.sent, rfl⟩
  | cons q rs ih =>
      show ∃ sent, (removeRouter ctx q.agent q.router >>= fun _ =>
        rs.forM fun q => removeRouter ctx q.agent q.router).runOn c = _
      cases hknown : c.directory.knows q.router with
      | false =>
          -- the request fails here, and the removals behind it are never tried
          refine ⟨c.sent, ?_⟩
          rw [run_on_bind, remove_router_unknown hd ctx q.agent hknown,
            Store.removals_cons_unknown hknown, Directory.removed_cons_unknown hknown]
      | true =>
          obtain ⟨sent, hrun⟩ := remove_router_serving hd hs ctx q.agent hknown
          obtain ⟨sent', hrest⟩ := ih
            (c := { c with
              store := c.store.removal c.directory ctx q.router q.agent, sent := sent })
            hd (hs.removal q.router q.agent)
          refine ⟨sent', ?_⟩
          rw [run_on_bind, hrun, Store.removals_cons_known hknown,
            Directory.removed_cons_known hknown]
          exact hrest

end Controller

end RouterBinding
