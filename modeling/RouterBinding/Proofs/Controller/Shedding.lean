import RouterBinding.Controller.Reconcile
import RouterBinding.Event.Reactions
import RouterBinding.Operator.Repair
import RouterBinding.Proofs.Binding.View
import RouterBinding.Proofs.Controller.Respects

/-!
# Requests that add no SNAT binding

A store sheds another if its table of SNAT bindings holds no row that was not there before. That is
all that a request does to the table unless it binds address translation: scheduling, explicit
assignment and reconciliation apart, every request and every port event `Sheds`, over stores of any
content and directories in any state.
-/

namespace RouterBinding

/-- Every row of the SNAT table was there before. -/
def Store.Sheds (s s' : Store) : Prop :=
  ∀ key text, s'.snat.get? key = some text → s.snat.get? key = some text

namespace Store.Sheds

variable {s s' s'' : Store}

theorem of_eq (h : s'.snat = s.snat) : s.Sheds s' := fun _ _ hrow => h ▸ hrow

theorem refl (s : Store) : s.Sheds s := of_eq rfl

theorem trans (h : s.Sheds s') (h' : s'.Sheds s'') : s.Sheds s'' :=
  fun key text hrow => h key text (h' key text hrow)

theorem erase (s : Store) (key : String) : s.Sheds { s with snat := s.snat.erase key } := by
  intro key' text hrow
  simp only [Table.get_erase] at hrow
  split at hrow
  · cases hrow
  · exact hrow

theorem foldl_erase (s : Store) (keys : List String) (hosts : Table String String) :
    s.Sheds ⟨keys.foldl Table.erase s.snat, hosts⟩ := by
  intro key text hrow
  simp only [Table.get_foldl_erase] at hrow
  split at hrow
  · cases hrow
  · exact hrow

end Store.Sheds

namespace Transaction

variable {ε ε' α β : Type}

/-- A transaction that adds no SNAT binding where it succeeds. -/
def Sheds (t : Transaction ε α) : Prop := ∀ s a s', t s = .ok (a, s') → s.Sheds s'

namespace Sheds

theorem pure (a : α) : Sheds (pure a : Transaction ε α) := by
  intro s a s' h
  cases h
  exact .refl s

theorem query (f : Store → Except ε α) : Sheds (query f) := by
  intro s a s' h
  rw [query_apply] at h
  cases hf : f s with
  | error e =>
      rw [hf] at h
      cases h
  | ok x =>
      rw [hf] at h
      cases h
      exact .refl s

theorem asking (answer : Except Fault α) : Sheds (asking answer) := by
  intro s a s' h
  cases answer with
  | error e => cases h
  | ok x =>
      cases h
      exact .refl s

theorem bind {t : Transaction ε α} {f : α → Transaction ε β} (ht : Sheds t)
    (hf : ∀ a, Sheds (f a)) : Sheds (t >>= f) := by
  intro s b s' h
  rw [bind_apply] at h
  cases hrun : t s with
  | error e =>
      rw [hrun] at h
      cases h
  | ok found =>
      obtain ⟨a, s₁⟩ := found
      rw [hrun] at h
      exact (ht s a s₁ hrun).trans (hf a s₁ b s' h)

theorem map_error {t : Transaction ε α} (ht : Sheds t) (f : ε → ε') : Sheds (t.mapError f) := by
  intro s a s' h
  rw [map_error_apply] at h
  cases hrun : t s with
  | error e =>
      rw [hrun] at h
      cases h
  | ok found =>
      rw [hrun] at h
      cases h
      exact ht s a s' hrun

theorem for_m {f : α → Transaction ε Unit} {items : List α} (hf : ∀ x, Sheds (f x)) :
    Sheds (items.forM f) := by
  induction items with
  | nil => exact pure ()
  | cons x items ih => exact (hf x).bind fun _ => ih

theorem insert_host (b : HostBinding) : Sheds (insertHost b) := by
  intro s a s' h
  rw [insert_host_apply] at h
  split at h
  · cases h
    exact .refl s
  · cases h
    exact .of_eq rfl

theorem delete_host (b : HostBinding) : Sheds (deleteHost b) := by
  intro s a s' h
  rw [delete_host_apply] at h
  cases h
  exact .of_eq rfl

theorem delete_snat (router : String) (scope : Option String) :
    Sheds (deleteSnat router scope) := by
  intro s a s' h
  rw [delete_snat_apply] at h
  split at h
  · split at h
    · cases h
      exact .refl s
    · cases h
      exact .erase s router
  · cases h
    exact .refl s
  · cases h

theorem delete_agent (agent : String) : Sheds (deleteAgent agent) :=
  (query _).bind fun snat => (query _).bind fun hosts => by
    intro s a s' h
    cases h
    exact .foldl_erase s snat _

theorem release_node (d : Directory) (ctx : Context) (router : String) (b : SnatBinding) :
    Sheds (releaseNode d ctx router b) := by
  refine (asking _).bind fun needed => ?_
  cases needed with
  | true => exact pure _
  | false => exact ((delete_host _).map_error _).bind fun _ => pure _

theorem release_snat_node (d : Directory) (ctx : Context) (router : String)
    (scope : Option String) : Sheds (releaseSnatNode d ctx router scope) := by
  refine ((delete_snat router scope).map_error _).bind fun found => ?_
  cases found with
  | none => exact pure _
  | some b => exact (release_node d ctx router b).bind fun _ => pure _

theorem release (router : String) (scope : Option String) (dropHost : Bool) :
    Sheds (release router scope dropHost) := by
  refine (delete_snat router scope).bind fun found => ?_
  cases found with
  | none => exact pure _
  | some b =>
      cases dropHost with
      | false => exact pure _
      | true => exact (delete_host _).bind fun _ => pure _

end Sheds

end Transaction

/-- The store of a controller sheds that of another. -/
def Controller.Sheds (c c' : Controller) : Prop := c.store.Sheds c'.store

instance : Std.Refl Controller.Sheds := ⟨fun c => .refl c.store⟩

instance : IsTrans Controller Controller.Sheds := ⟨fun _ _ _ => Store.Sheds.trans⟩

namespace Action

variable {α β : Type}

/-- A request that adds no SNAT binding, whatever it answers. -/
abbrev Sheds (a : Action α) : Prop := Respects Controller.Sheds a

theorem notify_sheds (n : Notice) : (notify n).Sheds := fun c => .refl c.store

theorem change_sheds (f : Directory → Except Fault Directory) : (change f).Sheds := by
  intro c
  cases hf : f c.directory with
  | ok d =>
      rw [run_on_change_ok hf]
      exact .refl c.store
  | error e =>
      rw [run_on_change_error hf]
      exact .refl c.store

theorem commit_sheds {t : Transaction ControllerError α} (ht : t.Sheds) : (commit t).Sheds := by
  intro c
  show c.store.Sheds (c.store.commit t).2
  cases hrun : t c.store with
  | error e =>
      rw [Store.commit_of_error hrun]
      exact .refl c.store
  | ok found =>
      obtain ⟨a, s'⟩ := found
      rw [Store.commit_of_ok hrun]
      exact ht c.store a s' hrun

end Action

namespace Controller

open RouterBinding.Action

/-! ## Placement by the number of routers -/

theorem place_sheds (router : String) (candidates : List Agent) :
    (place router candidates).Sheds :=
  .place (fun _ => commit_sheds ((Transaction.Sheds.insert_host _).map_error _)) candidates

theorem bind_host_sheds (agent : Agent) (router : Router) : (bindHost agent router).Sheds :=
  (commit_sheds ((Transaction.Sheds.insert_host _).map_error _)).bind fun _ => .pure ()

theorem unbind_hosts_sheds (router : String) (agents : List String) :
    (unbindHosts router agents).Sheds :=
  commit_sheds (.for_m fun _ =>
    ((Transaction.Sheds.delete_host _).map_error _).bind fun _ => .pure ())

theorem remove_host_sheds (agent router : String) : (removeHost agent router).Sheds :=
  .remove_host (commit_sheds ((Transaction.Sheds.delete_host _).map_error _))
    fun _ => notify_sheds _

/-! ## Routers that follow their ports -/

theorem bring_routers_sheds (ctx : Context) (port : Port) : (bringRouters ctx port).Sheds :=
  .bring_routers (fun agent router => place_sheds router [agent]) (fun _ _ => notify_sheds _)
    ctx port

theorem unlink_sheds (host : String) (interface : Port) : (unlink host interface).Sheds := by
  refine Respects.bind (.ask _) fun found => ?_
  cases found with
  | none => exact .pure ()
  | some link => exact change_sheds _

theorem tear_down_router_sheds (ctx : Context) (port host : String) (agent : Option Agent)
    (router : String) : (tearDownRouter ctx port host agent router).Sheds := by
  refine Respects.bind (.ask _) fun needed => .ite (.pure none) ?_
  cases agent with
  | none => exact .pure none
  | some agent =>
      refine Respects.bind (.ask _) fun interfaces => ?_
      exact (Respects.for_m fun interface => unlink_sheds host interface).bind fun _ => .pure _

theorem tear_down_sheds (ctx : Context) (port : String) (host : Option String) :
    (tearDown ctx port host).Sheds := by
  have hleft : (leftHost port host).Sheds := by
    unfold leftHost
    cases host.filter (· ≠ "") with
    | none => exact .ask _
    | some host => exact .pure _
  refine Respects.bind (.ask _) fun routers => hleft.bind fun found => ?_
  cases found with
  | none => exact .pure []
  | some host =>
      refine .ite (.pure []) (.bind (.ask _) fun agent => ?_)
      exact (Respects.map_m fun r => tear_down_router_sheds ctx.elevated port host agent r).bind
        fun _ => .pure _

/-! ## Releases -/

theorem release_snat_node_sheds (ctx : Context) (router : String) (scope : Option String) :
    (releaseSnatNode ctx router scope).Sheds :=
  .bind .get fun c => commit_sheds (.release_snat_node c.directory ctx router scope)

theorem release_node_sheds (ctx : Context) (router : String) (b : SnatBinding) :
    (releaseNode ctx router b).Sheds :=
  .bind .get fun c => commit_sheds (.release_node c.directory ctx router b)

theorem unschedule_sheds (ctx : Context) (router : String) (agents : List String) :
    (unschedule ctx router agents).Sheds := by
  refine (Respects.known_router router).bind fun r => .ite (unbind_hosts_sheds router agents) ?_
  refine (release_snat_node_sheds ctx router none).bind fun release => ?_
  rcases release with _ | ⟨b, host | host⟩
  · exact .pure ()
  · exact .pure ()
  · exact notify_sheds _

theorem remove_router_sheds (ctx : Context) (agent router : String) :
    (removeRouter ctx agent router).Sheds := by
  refine .remove_router (release_snat_node_sheds ctx router (some agent))
    (remove_host_sheds agent router) fun node => ?_
  cases node <;> exact notify_sheds _

theorem reconcile_no_gateway_sheds (ctx : Context) (router : Router) (id : String) :
    (reconcileNoGateway ctx router id).Sheds := by
  refine (release_snat_node_sheds ctx id none).bind fun release => ?_
  rcases release with _ | ⟨b, host | host⟩
  · exact .pure ()
  · exact notify_sheds _
  · exact notify_sheds _

/-! ## Port events -/

theorem refresh_arp_sheds (port : Port) (action : ArpAction) : (refreshArp port action).Sheds :=
  .ite (notify_sheds _) (.pure ())

theorem port_deleted_sheds (ctx : Context) (port : Port) (removals : List Removal) :
    (portDeleted ctx port removals).Sheds :=
  (refresh_arp_sheds port .del).bind fun _ =>
    .for_m fun r => remove_router_sheds ctx.elevated r.agent r.router

theorem departed_sheds (ctx : Context) (original : Port) : (departed ctx original).Sheds :=
  (tear_down_sheds ctx original.id original.host).bind fun removals =>
    .ite (port_deleted_sheds ctx original removals) (.pure ())

theorem arrived_sheds (ctx : Context) (original port : Port) :
    (arrived ctx original port).Sheds :=
  .ite ((bring_routers_sheds ctx port).bind fun _ => refresh_arp_sheds port .add)
    (.ite (refresh_arp_sheds port .add) (.pure ()))

end Controller

end RouterBinding
