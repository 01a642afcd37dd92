import RouterBinding.Proofs.Controller.Removal
import RouterBinding.Proofs.Controller.Respects
import RouterBinding.Event.Reactions

/-!
# Requests for one agent leave the others alone

Routers are brought to the agent of a host by placing them with that agent as the only candidate.
The agent that is chosen is one of the candidates (`Store.mem_of_least_loaded`), so the host
bindings of every other agent are what they were, over stores of any content and whichever questions
fail.
-/

namespace RouterBinding

theorem mem_of_map_m_ok {ε α β : Type} {f : α → Except ε β} {items : List α} {found : List β}
    (h : items.mapM f = .ok found) : ∀ y ∈ found, ∃ x ∈ items, f x = .ok y := by
  induction items generalizing found with
  | nil =>
      cases h
      simp
  | cons x items ih =>
      rw [List.mapM_cons] at h
      cases hx : f x with
      | error e =>
          rw [hx] at h
          cases h
      | ok y =>
          cases hrest : items.mapM f with
          | error e =>
              rw [hx, hrest] at h
              cases h
          | ok ys =>
              rw [hx, hrest] at h
              cases h
              rw [List.forall_mem_cons]
              refine ⟨⟨x, List.mem_cons_self, hx⟩, fun z hz => ?_⟩
              obtain ⟨x', hx', hfound⟩ := ih hrest z hz
              exact ⟨x', List.mem_cons_of_mem _ hx', hfound⟩

namespace Store

theorem mem_of_first {agents : List (Nat × String)} {a : Nat × String}
    (h : first agents = some a) : a ∈ agents := by
  induction agents generalizing a with
  | nil => cases h
  | cons b rest ih =>
      rw [first] at h
      split at h
      next hfirst =>
        split at h <;> cases h
        · exact List.mem_cons_of_mem _ (ih hfirst)
        · exact List.mem_cons_self
      next =>
        cases h
        exact List.mem_cons_self

/-- The agent with the fewest routers is one of the pool. -/
theorem mem_of_least_loaded {s : Store} {router : String} {pool : List Agent} {id : String}
    (h : s.leastLoaded? router pool = .ok (some id)) : ∃ a ∈ pool, a.id = id := by
  rw [leastLoaded?] at h
  cases hranked : s.ranked router pool with
  | error e =>
      rw [hranked] at h
      cases h
  | ok agents =>
      rw [hranked] at h
      obtain ⟨a, hfirst, rfl⟩ := Option.map_eq_some_iff.1 (Except.ok.inj h)
      rw [ranked] at hranked
      cases hbound : s.hostsOfRouter router with
      | error e =>
          rw [hbound] at hranked
          cases hranked
      | ok bound =>
          rw [hbound] at hranked
          obtain ⟨b, hb, hload⟩ := mem_of_map_m_ok hranked a (mem_of_first hfirst)
          refine ⟨b, (List.mem_filter.1 hb).1, ?_⟩
          cases hb : s.load b.id with
          | error e =>
              rw [hb] at hload
              cases hload
          | ok load =>
              rw [hb] at hload
              cases hload
              rfl

end Store

namespace Controller

open RouterBinding.Action

/-- Which routers are bound to an agent is the same in two controllers, whatever the rows hold. -/
def SameAt (agent : String) (c c' : Controller) : Prop :=
  ∀ router, c'.store.hasHost router agent = c.store.hasHost router agent

variable {agent : String}

instance : Std.Refl (SameAt agent) := ⟨fun _ _ => rfl⟩

instance : IsTrans Controller (SameAt agent) :=
  ⟨fun _ _ _ h h' router => (h' router).trans (h router)⟩

theorem notify_same_at (n : Notice) : Respects (SameAt agent) (notify n) := fun _ _ => rfl

theorem place_same_at {a : Agent} (hother : a.id ≠ agent) (router : String) :
    Respects (SameAt agent) (place router [a]) := by
  intro c
  rw [run_on_place_one]
  cases hchosen : c.store.leastLoaded? router ([a].filter (·.isActive)) with
  | error e => exact refl_of _ c
  | ok chosen =>
      cases chosen with
      | none => exact refl_of _ c
      | some id =>
          obtain ⟨b, hb, rfl⟩ := Store.mem_of_least_loaded hchosen
          obtain rfl := List.mem_singleton.1 ((List.mem_filter.1 hb).1)
          intro router'
          show (c.store.withHost ⟨router, b.id⟩).hasHost router' agent = _
          unfold Store.withHost
          split
          · rfl
          · have hne : (⟨router, b.id⟩ : HostBinding) ≠ ⟨router', agent⟩ := by simp [hother]
            rw [Store.has_host_put_host, if_neg hne]

theorem refresh_arp_same_at (port : Port) (action : ArpAction) :
    Respects (SameAt agent) (refreshArp port action) :=
  .ite (notify_same_at _) (.pure ())

/-- A port that arrives on a host of another agent leaves the agent alone. -/
theorem arrived_same_at {c : Controller} (hd : c.directory.Serving) (ctx : Context)
    (original : Port) {port : Port}
    (hother : ∀ a, port.host.bind c.directory.agentOn? = some a → a.id ≠ agent) :
    c.SameAt agent ((arrived ctx original port).runOn c).2 := by
  have hbring : c.SameAt agent ((bringRouters ctx port).runOn c).2 := by
    unfold bringRouters
    cases hhost : port.host with
    | none => exact refl_of _ c
    | some host =>
        rw [run_on_bind, run_on_ask, hd.agent_on_host]
        cases hagent : c.directory.agentOn? host with
        | none => exact refl_of _ c
        | some a =>
            refine Respects.bring_to (place_same_at (hother a ?_)) (fun _ => notify_same_at _) ctx
              port c
            rw [hhost]
            exact hagent
  unfold arrived
  split
  · rw [run_on_bind]
    split
    next routers c' hrun =>
      rw [hrun] at hbring
      exact trans_of (SameAt agent) hbring (refresh_arp_same_at port .add c')
    next e c' hrun =>
      rw [hrun] at hbring
      exact hbring
  · exact Respects.ite (refresh_arp_same_at port .add) (.pure ()) c

end Controller

end RouterBinding
