import RouterBinding.Proofs.Presence.Stranding
import RouterBinding.Proofs.Snat.Unassigning

/-!
# Removals behind one that fails

The removals that the deletion of a port makes due are carried out one by one, and the first that
fails ends them. Which host bindings of routers without gateway are gone afterwards is a matter of
which removals were `Reached` (`bound_after_deletion_iff`), over stores of any content and whichever
services are out. While all services are up and the SNAT bindings decode only an unknown router
makes a removal fail, and whatever stands behind it is lost: `removal_lost_behind_unknown` has a
router that stays bound to a host without ports.
-/

namespace RouterBinding

/-- A list of removals reaches that of a router from an agent: all that stands before one of them
ends well. -/
def Removal.Reached (endsWell : List Removal → Prop) (rs : List Removal) (router agent : String) :
    Prop :=
  ∃ before q after, rs = before ++ q :: after ∧ q.router = router ∧ q.agent = agent ∧
    endsWell before

namespace Removal

variable {endsWell endsWell' : List Removal → Prop} {rs : List Removal} {router agent : String}

theorem not_reached_nil : ¬Reached endsWell [] router agent := by
  rintro ⟨before, q, after, h, -⟩
  cases before <;> cases h

theorem reached_cons {q : Removal} :
    Reached endsWell (q :: rs) router agent ↔
      (q.router = router ∧ q.agent = agent ∧ endsWell []) ∨
        Reached (fun before => endsWell (q :: before)) rs router agent := by
  constructor
  · rintro ⟨before, q', after, h, hends⟩
    cases before with
    | nil =>
        obtain ⟨rfl, rfl⟩ := List.cons.inj h
        exact .inl hends
    | cons p before =>
        obtain ⟨rfl, rfl⟩ := List.cons.inj h
        exact .inr ⟨before, q', after, rfl, hends⟩
  · rintro (hends | ⟨before, q', after, rfl, hends⟩)
    · exact ⟨[], q, rs, rfl, hends⟩
    · exact ⟨q :: before, q', after, rfl, hends⟩

theorem reached_congr (h : ∀ before, endsWell before ↔ endsWell' before) :
    Reached endsWell rs router agent ↔ Reached endsWell' rs router agent := by
  rw [funext fun before => propext (h before)]

theorem not_reached_of_never (h : ∀ before, ¬endsWell before) :
    ¬Reached endsWell rs router agent := fun ⟨before, _, _, _, _, _, hends⟩ => h before hends

end Removal

namespace Store

/-- Every row of the SNAT bindings decodes, under whatever key it is. -/
def SnatDecode (s : Store) : Prop :=
  ∀ id text, s.snat.get? id = some text → ∃ b, SnatBinding.ofText? text = some b

namespace SnatDecode

variable {s : Store}

theorem drop_snat (hs : s.SnatDecode) (router : String) : (s.dropSnat router).SnatDecode := by
  intro id text hrow
  refine hs id text ?_
  have hget : (s.dropSnat router).snat.get? id = _ := Table.get_erase _ _ _
  rw [hget] at hrow
  split at hrow
  · cases hrow
  · exact hrow

theorem snat_of (hs : s.SnatDecode) (router : String) : ∃ row, s.snatOf? router = .ok row := by
  unfold snatOf? row?
  cases hget : s.snat.get? router with
  | none => exact ⟨none, rfl⟩
  | some text =>
      obtain ⟨b, hb⟩ := hs router text hget
      exact ⟨some b, by simp [decoded, hb, Except.map]⟩

end SnatDecode

theorem Sound.snat_decode {s : Store} (hs : s.Sound) : s.SnatDecode := by
  intro id text hrow
  obtain ⟨b, hread, -⟩ := hs.snat.decodes SnatBinding.of_text_to_text hrow
  exact ⟨b, hread⟩

end Store

namespace Controller

open RouterBinding.Action

variable {c c' : Controller} {ctx : Context}

namespace Removes

variable {agent router : String} {answer : Except ControllerError Unit}

theorem snat_decode (h : c.Removes ctx agent router answer c') (hs : c.store.SnatDecode) :
    c'.store.SnatDecode := by
  cases h with
  | unknown | unreadable | unanswered | unbound => exact hs
  | kept | released => exact hs.drop_snat router

/-- While the directory serves and the SNAT bindings decode, the removal of a router fails only if
the router is not known. -/
theorem ok_iff (h : c.Removes ctx agent router answer c') (hd : c.directory.Serving)
    (hs : c.store.SnatDecode) : answer = .ok () ↔ c.directory.knows router := by
  have hknows : c.directory.knows router ↔ ∃ r, c.directory.router? router = .ok (some r) := by
    simp [hd.router_of, Directory.knows, Table.contains, Option.isSome_iff_exists]
  rw [hknows]
  cases h with
  | unknown hunknown => simpa using hunknown
  | unreadable _ _ hrow =>
      obtain ⟨row, hrow'⟩ := hs.snat_of router
      exact absurd hrow' (hrow row)
  | unanswered _ hneeded => exact absurd (hd.needs_router ctx _ _ _) (hneeded _)
  | kept hgives | released hgives =>
      obtain ⟨r, hfound, -⟩ := hgives.translated
      exact iff_of_true rfl ⟨r, hfound⟩
  | unbound hfound _ hanswer =>
      refine iff_of_true (hanswer.resolve_right ?_) ⟨_, hfound⟩
      simp [hd.up]

end Removes

/-- Routers are removed from agents one by one, up to the first removal that fails. -/
def removeRouters (ctx : Context) (rs : List Removal) : Action Unit :=
  rs.forM fun q => removeRouter ctx q.agent q.router

@[simp] theorem run_on_remove_routers_nil (ctx : Context) (c : Controller) :
    (removeRouters ctx []).runOn c = (.ok (), c) := rfl

theorem run_on_remove_routers_cons (ctx : Context) (q : Removal) (rs : List Removal)
    (c : Controller) :
    (removeRouters ctx (q :: rs)).runOn c =
      match (removeRouter ctx q.agent q.router).runOn c with
      | (.ok _, c) => (removeRouters ctx rs).runOn c
      | (.error e, c) => (.error e, c) := by
  have hcons : removeRouters ctx (q :: rs) =
      removeRouter ctx q.agent q.router >>= fun _ => removeRouters ctx rs := rfl
  rw [hcons, run_on_bind]
  rcases (removeRouter ctx q.agent q.router).runOn c with ⟨e | ⟨⟩, c'⟩ <;> rfl

/-- A known router without gateway is unbound from an agent exactly if its removal is reached. -/
theorem remove_routers_bound_iff (ctx : Context) (rs : List Removal) {router agent : String}
    {r : Router} (hfound : c.directory.router? router = .ok (some r))
    (hgateway : r.hasGateway = false) :
    ((removeRouters ctx rs).runOn c).2.store.isBound router agent ↔
      c.store.isBound router agent ∧
        ¬Removal.Reached (fun before => ((removeRouters ctx before).runOn c).1 = .ok ())
          rs router agent := by
  induction rs generalizing c with
  | nil => exact (and_iff_left Removal.not_reached_nil).symm
  | cons q rs ih =>
      have hstep := remove_router_removes ctx q.agent q.router c
      simp only [run_on_remove_routers_cons, Removal.reached_cons]
      rcases hrun : (removeRouter ctx q.agent q.router).runOn c with ⟨e | ⟨⟩, c₁⟩
      · -- nothing behind this removal is tried
        rw [hrun] at hstep
        have hnever : ¬Removal.Reached (fun _ => False) rs router agent :=
          Removal.not_reached_of_never fun _ => id
        simp [hstep.is_bound_iff hfound hgateway, hnever]
      · rw [hrun] at hstep
        have hfound₁ : c₁.directory.router? router = .ok (some r) := hstep.directory_eq ▸ hfound
        simp [ih hfound₁, hstep.is_bound_iff hfound hgateway, and_assoc]

/-- While the directory serves and the SNAT bindings decode, removals end well exactly if all their
routers are known. -/
theorem remove_routers_ok_iff (ctx : Context) (rs : List Removal) (hd : c.directory.Serving)
    (hs : c.store.SnatDecode) :
    ((removeRouters ctx rs).runOn c).1 = .ok () ↔ ∀ q ∈ rs, c.directory.knows q.router := by
  induction rs generalizing c with
  | nil => exact iff_of_true rfl fun _ h => by cases h
  | cons q rs ih =>
      have hstep := remove_router_removes ctx q.agent q.router c
      have hends := hstep.ok_iff hd hs
      rw [run_on_remove_routers_cons, List.forall_mem_cons, ← hends]
      rcases hrun : (removeRouter ctx q.agent q.router).runOn c with ⟨e | ⟨⟩, c₁⟩
      · simp
      · rw [hrun] at hstep
        have hdirectory : c₁.directory = c.directory := hstep.directory_eq
        simp [ih (hdirectory ▸ hd) (hstep.snat_decode hs), hdirectory]

/-- The neighbours of a port that is deleted are told, and then its removals are carried out. -/
theorem run_on_port_deleted (ctx : Context) (port : Port) (c : Controller) :
    ∃ sent, ∀ rs, (portDeleted ctx port rs).runOn c =
      (removeRouters ctx.elevated rs).runOn { c with sent := sent } := by
  unfold portDeleted refreshArp
  cases port.isServiced with
  | true => exact ⟨_, fun rs => rfl⟩
  | false => exact ⟨c.sent, fun rs => rfl⟩

end Controller

namespace Exchange

open Controller

/-- After the deletion of a port a known router without gateway is bound to an agent exactly if it
was before and its removal is not reached, the removals in front of it having been ended by one that
failed. While the directory serves and the SNAT bindings decode that is so exactly if there is an
unknown router among those in front of it. -/
theorem bound_after_deletion_iff {x : Exchange} (hx : x.Registered) (nesting : Nat) (ctx : Context)
    (port : Port) (rs : List Removal) {router : String} (agent : String) {r : Router}
    (hfound : x.controller.directory.router? router = .ok (some r))
    (hgateway : r.hasGateway = false) :
    ∃ outcome y, publish (nesting + 1) ctx (.deleted port rs) x = some (outcome, y) ∧
      (y.controller.store.isBound router agent ↔ x.controller.store.isBound router agent ∧
        ¬Removal.Reached
          (fun before => ((portDeleted ctx port before).runOn x.controller).1 = .ok ())
          rs router agent) ∧
      (x.controller.directory.Serving → x.controller.store.SnatDecode →
        (outcome = .ok () ↔ ∀ q ∈ rs, x.controller.directory.knows q.router) ∧
        (y.controller.store.isBound router agent ↔ x.controller.store.isBound router agent ∧
          ¬Removal.Reached (fun before => ∀ p ∈ before, x.controller.directory.knows p.router)
            rs router agent)) := by
  obtain ⟨sent, hdeleted⟩ := run_on_port_deleted ctx port x.controller
  have hbound : (((removeRouters ctx.elevated rs).runOn
      { x.controller with sent := sent }).2.store.isBound router agent ↔ _) :=
    remove_routers_bound_iff ctx.elevated rs hfound hgateway
  simp only [← hdeleted] at hbound
  refine ⟨_, _, publish_registered hx nesting ctx (.deleted port rs), hbound, fun hd hs => ?_⟩
  have hends : ∀ rs, ((portDeleted ctx port rs).runOn x.controller).1 = .ok () ↔
      ∀ q ∈ rs, x.controller.directory.knows q.router := by
    intro rs
    rw [hdeleted]
    exact remove_routers_ok_iff (c := { x.controller with sent := sent }) ctx.elevated rs hd hs
  refine ⟨?_, ?_⟩
  · rw [← hends]
    show Except.mapError _ ((portDeleted ctx port rs).runOn x.controller).1 = .ok () ↔ _
    cases ((portDeleted ctx port rs).runOn x.controller).1 <;> simp [Except.mapError]
  · rwa [← Removal.reached_congr hends]

end Exchange

/-! ## A removal behind that of an unknown router -/

namespace SoleHost

/-- The only port on the host is gone, and the router is bound there still. -/
def deserted : Exchange := occupied.changeDirectory (·.removePort port.id)

/-- What its deletion makes due: a router that is not known any more comes first. -/
def leftovers : List Removal := [⟨"r0", "h1", agent.id⟩, ⟨plain.id, "h1", agent.id⟩]

theorem deserted_reachable : Exchange.Reachable .anything Directory.Serving deserted :=
  .step occupied_reachable (.change (occupied.controller.directory.removePort port.id)
    occupied.controller.draws (occupied_reachable.serving.2.1.remove_port port.id))

theorem deserted_knows : deserted.controller.directory.router? plain.id = .ok (some plain) := rfl

end SoleHost

namespace Exchange

open Controller

open SoleHost in
theorem bound_after_deletion_iff_deserted :
    deserted.Registered ∧
      deserted.controller.directory.router? plain.id = .ok (some plain) ∧
      plain.hasGateway = false ∧ deserted.controller.directory.Serving ∧
      deserted.controller.store.SnatDecode ∧
      ∃ outcome y, publish 64 .administrator (.deleted port leftovers) deserted =
          some (outcome, y) ∧
        (y.controller.store.isBound plain.id agent.id ↔
          deserted.controller.store.isBound plain.id agent.id ∧
            ¬Removal.Reached (fun before =>
                ((portDeleted .administrator port before).runOn deserted.controller).1 = .ok ())
              leftovers plain.id agent.id) ∧
        (outcome = .ok () ↔ ∀ q ∈ leftovers, deserted.controller.directory.knows q.router) ∧
        (y.controller.store.isBound plain.id agent.id ↔
          deserted.controller.store.isBound plain.id agent.id ∧
            ¬Removal.Reached
              (fun before => ∀ p ∈ before, deserted.controller.directory.knows p.router)
              leftovers plain.id agent.id) := by
  obtain ⟨hbus, hserving, hsound⟩ := deserted_reachable.serving
  obtain ⟨outcome, y, hpublish, hbound, hserved⟩ :=
    bound_after_deletion_iff hbus 63 .administrator port leftovers agent.id deserted_knows rfl
  exact ⟨hbus, deserted_knows, rfl, hserving, hsound.snat_decode, outcome, y, hpublish, hbound,
    hserved hserving hsound.snat_decode⟩

open SoleHost in
/-- The first removal names an unknown router, and fails. The router of the second one is known and
has no gateway, and its host binding stays. -/
theorem removal_lost_behind_unknown :
    ∃ y, Reachable .anything Directory.Serving deserted ∧
      deserted.controller.directory.router? plain.id = .ok (some plain) ∧
      plain.hasGateway = false ∧ ⟨plain.id, "h1", agent.id⟩ ∈ leftovers ∧
      publish 64 .administrator (.deleted port leftovers) deserted =
        some (.error ⟨"dvr_port_delete", .afterDelete, .routerNotFound "r0"⟩, y) ∧
      y.controller.store.hasHost plain.id agent.id = .ok true := by
  obtain ⟨hbus, hserving, hsound⟩ := deserted_reachable.serving
  obtain ⟨sent, hdeleted⟩ := run_on_port_deleted .administrator port deserted.controller
  have hrun : (portDeleted .administrator port leftovers).runOn deserted.controller =
      (.error (.routerNotFound "r0"), { deserted.controller with sent := sent }) := by
    have hunknown : deserted.controller.directory.knows "r0" = false := by decide +kernel
    rw [hdeleted, leftovers, run_on_remove_routers_cons,
      remove_router_unknown (c := { deserted.controller with sent := sent }) hserving
        Context.administrator.elevated agent.id hunknown]
  refine ⟨{ deserted with controller := { deserted.controller with sent := sent } },
    deserted_reachable, deserted_knows, rfl, by decide +kernel, ?_, ?_⟩
  · rw [publish_registered hbus, follow, hrun]
    rfl
  · have hbound : deserted.controller.store.isBound plain.id agent.id = true := by decide +kernel
    rw [← hbound]
    exact hsound.has_host plain.id agent.id

end Exchange

end RouterBinding
