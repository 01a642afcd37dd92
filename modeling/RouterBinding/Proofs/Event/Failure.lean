import RouterBinding.Proofs.Controller.Atomic
import RouterBinding.Proofs.Event.Run

/-!
# Requests that fail

A request that fails leaves the tables, the links and the notices as they were
(`failed_request_unchanged`). The words drawn for a choice stay drawn.
-/

namespace RouterBinding

open Controller in
/-- Each call but a tear-down, which cannot fail, is one unit. -/
theorem Call.action_atomic {d : Directory} (hd : d.Serving) (call : Call)
    (hcall : ∀ ctx port host, call ≠ .tearDown ctx port host) : Action.Atomic d call.action := by
  cases call with
  | scheduleSnat router => exact (schedule_snat_atomic router).discard
  | bindRouter agent router => exact bind_router_atomic agent router
  | releaseSnat router scope => exact (Action.Atomic.commit _).discard
  | releaseNode ctx router binding => exact (release_node_atomic ctx router binding).discard
  | releaseSnatNode ctx router scope => exact (release_snat_node_atomic ctx router scope).discard
  | unschedule ctx router agents => exact unschedule_atomic ctx router agents
  | removeRouter ctx agent router => exact remove_router_atomic hd ctx agent router
  | reconcile ctx router => exact reconcile_atomic ctx router
  | purge agent => exact (Action.Atomic.commit _).discard
  | bringRouters ctx port => exact (bring_routers_atomic ctx port).discard
  | tearDown ctx port host => exact absurd rfl (hcall ctx port host)
  | place router candidates => exact (place_atomic router candidates).discard
  | bindHost agent router => exact bind_host_atomic agent router
  | unbindHosts router agents => exact .commit _
  | removeHost agent router => exact remove_host_atomic hd agent router
  | release router scope dropHost => exact (Action.Atomic.commit _).discard

open Controller RouterBinding.Action in
/-- A call to the controller that fails, a repair by the operator that fails and the creation of a
port that cannot be followed leave tables and links as they were, and no notice was sent. -/
theorem failed_request_unchanged {c c' : Controller} {action : Action Unit} {e : ControllerError}
    (hd : c.directory.Serving)
    (haction : (∃ call : Call, action = call.action) ∨
      ∃ ctx port, action = portCreated ctx port)
    (hfailed : action.runOn c = (.error e, c')) : c.Unchanged c' := by
  have hunit : ∀ a : Action Unit, a.Atomic c.directory → a.runOn c = (.error e, c') →
      c.Unchanged c' := by
    intro a ha hrun
    have hsame := (ha c rfl).2 e (by rw [hrun])
    rwa [hrun] at hsame
  obtain ⟨call, rfl⟩ | ⟨ctx, port, rfl⟩ := haction
  · by_cases htear : ∃ ctx port host, call = .tearDown ctx port host
    · obtain ⟨ctx, port, host, rfl⟩ := htear
      obtain ⟨_, hrun, -⟩ := tear_down_serving hd ctx port host
      have hanswer : (Call.tearDown ctx port host).action.runOn c = _ := run_on_bind _ _ c
      rw [hrun] at hanswer
      rw [hanswer] at hfailed
      cases hfailed
    · refine hunit _ (call.action_atomic hd fun ctx port host h => ?_) hfailed
      exact htear ⟨ctx, port, host, h⟩
  · exact hunit _ (port_created_atomic ctx port) hfailed

/-! ## A row that does not decode -/

namespace SoleHost

/-- The text of a host binding was lost. -/
def damaged : Controller :=
  ⟨directory, ⟨∅, (∅ : Table String String).insert "2:r1:a1" ""⟩, .ofSeed 0, []⟩

end SoleHost

open SoleHost in
/-- The creation of the port cannot be followed over the damaged row, and nothing has changed. -/
theorem failed_request_unchanged_damaged :
    ∃ e c', (Controller.portCreated .administrator port).runOn damaged = (.error e, c') ∧
      damaged.Unchanged c' := by
  have hrun : (Controller.portCreated .administrator port).runOn damaged =
      (.error (.store .undecodable), damaged) := rfl
  exact ⟨_, _, hrun, failed_request_unchanged directory_serving (.inr ⟨_, _, rfl⟩) hrun⟩

end RouterBinding
