import RouterBinding.Proofs.Event.Run

/-!
# The host binding beside a SNAT binding

While every router id keeps one record, a stored SNAT binding has the host binding of its agent
beside it (`snat_binding_has_host_binding`). Host bindings go in many ways, and each of them either
takes the SNAT binding along or cannot meet it: only distributed routers with a gateway have SNAT
bindings, and those are removed from the agent that translates by releasing the SNAT binding. The
one request that breaks the pair is the release of the host binding alone.
-/

namespace RouterBinding

/-- Requests bring along the one record of a router only, and none drops a host binding alone. -/
def Practice.fixed (record : String → Router) : Practice :=
  ⟨fun r => r = record r.id, False⟩

/-- The directory answers with the one record of a router, if at all. -/
def Directory.Records (record : String → Router) (d : Directory) : Prop :=
  ∀ id r, d.routers.get? id = some r → r = record id

namespace Store

/-- Each SNAT binding is that of a distributed router with a gateway, and the host binding of its
agent is stored as well. -/
def Paired (record : String → Router) (s : Store) : Prop :=
  ∀ id b, s.snatRow? id = some b →
    s.isBound id b.agent ∧ (record id).distributed ∧ (record id).hasGateway

variable {record : String → Router} {d : Directory} {s s' : Store}

/-- A change that brings no SNAT binding along, and drops no host binding beside one that stays. -/
theorem Paired.of_kept (hpaired : s.Paired record)
    (hkept : ∀ id b, s'.snatRow? id = some b →
      s.snatRow? id = some b ∧ (s.isBound id b.agent → s'.isBound id b.agent)) :
    s'.Paired record := by
  intro id b hb
  obtain ⟨hrow, hstays⟩ := hkept id b hb
  obtain ⟨hbound, hrest⟩ := hpaired id b hrow
  exact ⟨hstays hbound, hrest⟩

/-- Binding the address translation of a router that keeps its record binds the host as well. -/
theorem Paired.with_snat (hpaired : s.Paired record) {router : Router} {agent : Agent}
    (hrecord : router = record router.id) (hdistributed : router.distributed)
    (hgateway : router.hasGateway) : (s.withSnat router agent).Paired record := by
  intro id b hb
  rw [snat_row_with_snat] at hb
  rw [is_bound_with_snat]
  split at hb
  next hrow =>
    obtain rfl := hrow
    cases hb
    rw [← hrecord]
    exact ⟨by simp, hdistributed, hgateway⟩
  next =>
    obtain ⟨hbound, hrest⟩ := hpaired id b hb
    exact ⟨by simp [hbound], hrest⟩

/-- Every change keeps SNAT bindings and host bindings together. -/
theorem paired_of_write (hid : ∀ id, (record id).id = id) (hd : d.Records record)
    (hs : s.Sound) (hpaired : s.Paired record)
    (h : Write (.fixed record) d.routers s s') : s'.Paired record := by
  cases h with
  | @bindSnat router agent hrouter hdistributed hgateway _ _ =>
      refine hpaired.with_snat ?_ hdistributed hgateway
      rcases hrouter with hbrings | ⟨id, hknown⟩
      · exact hbrings
      · have hrouter := hd id router hknown
        rw [hrouter, hid]
  | bindHost c =>
      refine hpaired.of_kept fun id b hb => ?_
      rw [snat_row_with_host] at hb
      rw [is_bound_with_host]
      exact ⟨hb, fun hbound => by simp [hbound]⟩
  | dropSnat =>
      refine hpaired.of_kept fun id b hb => ?_
      rw [snat_row_drop_snat] at hb
      split at hb
      · cases hb
      · exact ⟨hb, fun hbound => hbound⟩
  | dropNode =>
      refine hpaired.of_kept fun id b hb => ?_
      rw [snat_row_without_snat_node] at hb
      rw [is_bound_without_snat_node]
      split at hb
      next => cases hb
      next hother => exact ⟨hb, fun hbound => by simp [hbound, hother]⟩
  | @dropOther router agent r hknown hother =>
      refine hpaired.of_kept fun id b hb => ?_
      rw [snat_row_drop_host] at hb
      rw [is_bound_drop_host]
      obtain ⟨-, hdistributed, hgateway⟩ := hpaired id b hb
      -- a binding that is dropped is not the one beside a SNAT binding
      have hne : (⟨router, agent⟩ : HostBinding) ≠ ⟨id, b.agent⟩ := by
        intro heq
        cases heq
        have hrecord := hd _ r hknown
        exact hother (hrecord ▸ hdistributed) (hrecord ▸ hgateway) b hb rfl
      exact ⟨hb, fun hbound => by simp [hbound, hne]⟩
  | dropHost hdrops _ => exact False.elim hdrops
  | purge agent counts hpurge =>
      obtain ⟨_, s₁, hrun, -, hrows, hbounds⟩ := Transaction.delete_agent_sound hs agent
      rw [hrun] at hpurge
      cases hpurge
      refine hpaired.of_kept fun id b hb => ?_
      rw [hrows] at hb
      rw [hbounds]
      obtain ⟨hrow, hagent⟩ := Option.filter_eq_some_iff.1 hb
      -- a SNAT binding that a purge leaves names another agent, and so does its host binding
      have hne : b.agent ≠ agent := by simpa using hagent
      exact ⟨hrow, fun hbound => by simp [hne, hbound]⟩

end Store

namespace Exchange

/-- Every stored SNAT binding has a stored host binding of the same router and agent, whatever
calls, events and changes of the directory came before and whichever of them failed. -/
theorem snat_binding_has_host_binding {record : String → Router}
    (hid : ∀ id, (record id).id = id) {x : Exchange}
    (hx : Reachable (.fixed record) (Directory.Records record) x) :
    ∃ bs, x.controller.store.snatBindings = .ok bs ∧
      ∀ b ∈ bs, x.controller.store.hasHost b.router b.agent = .ok true := by
  have hlinks : ∀ d d' : Directory, d.Records record → d.Relinks d' → d'.Records record := by
    intro d d' hd hlinks id r hr
    rw [hlinks.routers_eq] at hr
    exact hd id r hr
  obtain ⟨-, -, hs, hpaired⟩ := hx.invariant hlinks
    { empty := fun id b hb => by cases hb
      write := fun d s s' hd hs hpaired hwrite =>
        Store.paired_of_write hid hd hs hpaired hwrite }
  obtain ⟨bs, hbs, hmem, -⟩ := hs.snat_bindings
  refine ⟨bs, hbs, fun b hb => ?_⟩
  rw [hs.has_host, (hpaired b.router b ((hmem b).1 hb)).1]

end Exchange

namespace SoleHost

/-- The router under its id, and a router without gateway under every other. -/
def record (id : String) : Router := if id = router.id then router else ⟨id, "", false, none⟩

theorem record_id (id : String) : (record id).id = id := by
  unfold record
  split
  next h => exact h.symm
  next => rfl

theorem directory_records : directory.Records record := by
  intro id r hr
  have hrouters : directory.routers = (∅ : Table String Router).insert router.id router := rfl
  rw [hrouters, Table.get_insert] at hr
  split at hr
  next heq =>
    obtain rfl : router.id = id := by simpa using heq
    cases hr
    rfl
  next => cases hr

end SoleHost

namespace Exchange

open SoleHost in
theorem snat_binding_has_host_binding_sole_host :
    (∀ id, (record id).id = id) ∧
      Reachable (.fixed record) (Directory.Records record) bound ∧
      ∃ bs, bound.controller.store.snatBindings = .ok bs ∧
        ∀ b ∈ bs, bound.controller.store.hasHost b.router b.agent = .ok true := by
  have hreachable : Reachable (.fixed record) (Directory.Records record) bound :=
    bound_reachable rfl directory_records
  exact ⟨record_id, hreachable, snat_binding_has_host_binding record_id hreachable⟩

end Exchange

end RouterBinding
