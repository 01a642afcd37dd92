import RouterBinding.Proofs.Event.Lifecycle
import RouterBinding.Proofs.Event.Run

/-!
# Address translation that is lost with a port

The SNAT binding of a distributed router with a gateway should follow the gateway and not the ports.
Creating a port keeps it, but when a port leaves the host of the agent that translates, and no other
port needs the router there, the removal of the router from that host gives the SNAT binding up.
`snat_kept_iff_not_evicted` says that this is the one way in which an operation on a port changes
it, and `translation_lost_with_last_port` that it happens.
-/

namespace RouterBinding

/-- In a list that increases, what comes before the first failure of a test is what passes it with
everything below. -/
theorem mem_take_while_of_pairwise {α : Type} {R : α → α → Prop} {p : α → Bool} {l : List α}
    (hl : l.Pairwise R) (hR : ∀ a b, R a b → ¬R b a) {x : α} :
    x ∈ l.takeWhile p ↔ x ∈ l ∧ p x ∧ ∀ y ∈ l, R y x → p y := by
  induction l with
  | nil => simp
  | cons a l ih =>
      obtain ⟨ha, hl⟩ := List.pairwise_cons.1 hl
      rw [List.takeWhile_cons]
      cases hp : p a with
      | false =>
          -- the head fails and is below all others, so nothing passes with everything below it
          simp only [Bool.false_eq_true, if_false, List.not_mem_nil, false_iff]
          rintro ⟨hmem, hx, hbelow⟩
          rcases List.mem_cons.1 hmem with rfl | hmem
          · rw [hp] at hx
            cases hx
          · have hpa := hbelow a List.mem_cons_self (ha x hmem)
            rw [hp] at hpa
            cases hpa
      | true =>
          simp only [if_true, List.mem_cons, ih hl]
          constructor
          · rintro (rfl | ⟨hmem, hx, hbelow⟩)
            · refine ⟨.inl rfl, hp, ?_⟩
              rintro y (rfl | hy) hyx
              · exact hp
              · exact absurd (ha y hy) (hR y x hyx)
            · refine ⟨.inr hmem, hx, ?_⟩
              rintro y (rfl | hy) hyx
              · exact hp
              · exact hbelow y hy hyx
          · rintro ⟨rfl | hmem, hx, hbelow⟩
            · exact .inl rfl
            · exact .inr ⟨hmem, hx, fun y hy => hbelow y (.inr hy)⟩

namespace Exchange

/-- An operation on a port evicts the address translation of a router: the port leaves a host whose
agent translates for the router and where no other port needs it, and no unknown router comes before
it among those that are removed. -/
def Evicts (x : Exchange) (op : PortOperation) (router : String) : Prop :=
  ∃ port host agent, op.departure? x.controller.directory = some (port, host) ∧
    (op.searched x.controller.directory).agentOn? host = some agent ∧
    (op.searched x.controller.directory).Abandons port host router ∧
    (x.controller.store.snatIn? router (some agent.id)).isSome ∧
    ∀ r, compare r router = .lt → (op.searched x.controller.directory).Abandons port host r →
      x.controller.directory.knows r

/-- Among the removals carried out for an operation there is one that gives up the address
translation of a router exactly if the operation evicts it. -/
theorem evicts_iff {x : Exchange} {op : PortOperation} {ctx : Context} {router : Router}
    (hknown : x.controller.directory.routers.get? router.id = some router) :
    x.Evicts op router.id ↔
      ∃ q ∈ (op.directory x.controller.directory).carriedOut (op.due x.controller.directory ctx),
        q.router = router.id ∧
        (x.controller.store.snatIn? router.id (some q.agent)).isSome := by
  have hknows : ∀ id, (op.directory x.controller.directory).knows id =
      x.controller.directory.knows id := by
    intro id
    rw [Directory.knows, Directory.knows, op.directory_routers]
  have hasymm : ∀ a b : Removal, compare a.router b.router = .lt →
      ¬compare b.router a.router = .lt := by
    intro a b hab hba
    have haa := Std.TransCmp.lt_trans hab hba
    simp at haa
  unfold Directory.carriedOut
  simp only [mem_take_while_of_pairwise PortOperation.pairwise_due hasymm, hknows]
  constructor
  · rintro ⟨port, host, agent, hdeparture, hagent, habandons, hrow, hbelow⟩
    refine ⟨⟨router.id, host, agent.id⟩, ⟨PortOperation.mem_due.2
      ⟨port, host, agent, hdeparture, hagent, habandons, rfl⟩, ?_, ?_⟩, rfl, hrow⟩
    · exact Directory.knows_of_found hknown
    · intro q hq hlt
      -- an operation has one departure, so all its removals are for the same port and host
      obtain ⟨port', host', agent', hdeparture', -, habandons', -⟩ := PortOperation.mem_due.1 hq
      rw [hdeparture] at hdeparture'
      cases hdeparture'
      exact hbelow q.router hlt habandons'
  · rintro ⟨q, ⟨hdue, -, hbelow⟩, hrouter, hrow⟩
    obtain ⟨port, host, agent, hdeparture, hagent, habandons, hq⟩ := PortOperation.mem_due.1 hdue
    refine ⟨port, host, agent, hdeparture, hagent, hrouter ▸ habandons, ?_, ?_⟩
    · rw [hq] at hrow
      exact hrow
    · intro r hlt habandons'
      exact hbelow ⟨r, host, agent.id⟩
        (PortOperation.mem_due.2 ⟨port, host, agent, hdeparture, hagent, habandons', rfl⟩)
        (hrouter ▸ hlt)

/-- An operation on a port changes the SNAT binding of a distributed router with a gateway exactly
if it evicts it, and then the binding is gone. -/
theorem snat_kept_iff_not_evicted {w : Practice} {x : Exchange}
    (hx : Reachable w Directory.Serving x) (op : PortOperation) (ctx : Context) (nesting : Nat)
    {router : Router}
    (hknown : x.controller.directory.routers.get? router.id = some router)
    (hdistributed : router.distributed) (hgateway : router.hasGateway) :
    ∃ outcome y, op.run (nesting + 1) ctx x = some (.ok outcome, y) ∧
      (x.Evicts op router.id → y.controller.store.snatOf? router.id = .ok none) ∧
      (y.controller.store.snatOf? router.id = x.controller.store.snatOf? router.id ↔
        ¬x.Evicts op router.id) := by
  obtain ⟨hbus, hd, hs⟩ := hx.serving
  obtain ⟨y, hrun, -, -, hstore⟩ := PortOperation.run_serving hbus hd hs nesting ctx op
  have hs' : y.controller.store.Sound := hstore ▸ hs.followed _ _ _
  have hknown' : (op.directory x.controller.directory).routers.get? router.id = some router := by
    rw [op.directory_routers]
    exact hknown
  have hrow : y.controller.store.snatRow? router.id =
      if ∃ q ∈ (op.directory x.controller.directory).carriedOut
          (op.due x.controller.directory ctx),
        q.router = router.id ∧ (x.controller.store.snatIn? router.id (some q.agent)).isSome
      then none else x.controller.store.snatRow? router.id := by
    rw [hstore, Store.snat_row_followed, Store.snat_row_removals hs]
    simp only [Store.given_up_translated hknown' hdistributed hgateway]
    rfl
  refine ⟨_, y, hrun, ?_⟩
  rw [hs.snat_of, hs'.snat_of]
  by_cases hevicts : x.Evicts op router.id
  · rw [if_pos ((evicts_iff hknown).1 hevicts)] at hrow
    have ⟨_, _, agent, _, _, _, hnamed, _⟩ := hevicts
    obtain ⟨b, hb⟩ := Option.isSome_iff_exists.1 hnamed
    refine ⟨fun _ => by rw [hrow], ?_⟩
    simp [hrow, Store.snat_in_some hb, hevicts]
  · rw [if_neg fun h => hevicts ((evicts_iff hknown).2 h)] at hrow
    exact ⟨fun h => absurd h hevicts, by simp [hrow, hevicts]⟩

open SoleHost in
theorem snat_kept_iff_not_evicted_sole_host :
    Reachable .anything Directory.Serving bound ∧
      bound.controller.directory.routers.get? router.id = some router ∧
      router.distributed ∧ router.hasGateway ∧
      ∃ outcome y, (PortOperation.delete port).run 64 .administrator bound =
          some (.ok outcome, y) ∧
        (bound.Evicts (.delete port) router.id →
          y.controller.store.snatOf? router.id = .ok none) ∧
        (y.controller.store.snatOf? router.id = bound.controller.store.snatOf? router.id ↔
          ¬bound.Evicts (.delete port) router.id) := by
  have hreachable : Reachable .anything Directory.Serving bound :=
    bound_reachable trivial directory_serving
  have hknown : bound.controller.directory.routers.get? router.id = some router := by decide +kernel
  exact ⟨hreachable, hknown, rfl, rfl,
    snat_kept_iff_not_evicted hreachable (.delete port) .administrator 63 hknown rfl rfl⟩

open SoleHost in
/-- When the last serviced port on the host of its agent is deleted, a distributed router loses its
address translation although it has a gateway. -/
theorem translation_lost_with_last_port :
    ∃ outcome y, Reachable .anything Directory.Serving bound ∧
      bound.controller.directory.routers.get? router.id = some router ∧
      router.distributed ∧ router.hasGateway ∧
      (PortOperation.delete port).run 64 .administrator bound = some (.ok outcome, y) ∧
      y.controller.store.snatOf? router.id ≠ bound.controller.store.snatOf? router.id := by
  have hreachable : Reachable .anything Directory.Serving bound :=
    bound_reachable trivial directory_serving
  obtain ⟨hbus, hd, hs⟩ := hreachable.serving
  obtain ⟨y, hrun, -, -, hstore⟩ := PortOperation.run_serving hbus hd hs 63 .administrator
    (.delete port)
  have hs' : y.controller.store.Sound := hstore ▸ hs.followed _ _ _
  have hbefore : bound.controller.store.snatRow? router.id = some ⟨"r1", "a1", "h1", none⟩ := by
    decide +kernel
  have hafter : y.controller.store.snatRow? router.id = none := by
    rw [hstore]
    decide +kernel
  refine ⟨_, y, hreachable, by decide +kernel, rfl, rfl, hrun, ?_⟩
  rw [hs.snat_of, hs'.snat_of, hbefore, hafter]
  simp

end Exchange

end RouterBinding
