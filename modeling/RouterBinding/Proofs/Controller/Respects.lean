import Mathlib.Order.Defs.Unbundled
import RouterBinding.Controller.Assignment
import RouterBinding.Controller.Presence

/-!
# Relations that requests respect

A request respects a relation between controllers if the controller after it is always related to
the one before, whether it answers or fails. For a relation that is reflexive and transitive this
follows the parts of the request, and what only asks respects every such relation. Of the larger
requests it is enough to know that their writes and notices do.
-/

namespace RouterBinding.Action

variable {α β : Type} {R : Controller → Controller → Prop}

/-- Whatever a request answers, it leads to a controller that is related to the one before. -/
def Respects (R : Controller → Controller → Prop) (a : Action α) : Prop :=
  ∀ c, R c (a.runOn c).2

namespace Respects

section Refl

variable [Std.Refl R]

theorem pure (x : α) : Respects R (pure x : Action α) := fun c => refl_of R c

theorem throw (e : ControllerError) : Respects R (throw e : Action α) := fun c => refl_of R c

theorem ask (question : Directory → Except Fault α) : Respects R (ask question) :=
  fun c => refl_of R c

theorem consult (query : Store → Except StoreError α) : Respects R (consult query) :=
  fun c => refl_of R c

theorem get : Respects R (get : Action Controller) := fun c => refl_of R c

end Refl

theorem ite {p : Prop} [Decidable p] {a b : Action α} (ha : Respects R a) (hb : Respects R b) :
    Respects R (if p then a else b) := by
  split
  · exact ha
  · exact hb

theorem bind [IsTrans Controller R] {a : Action α} {f : α → Action β} (ha : Respects R a)
    (hf : ∀ x, Respects R (f x)) : Respects R (a >>= f) := by
  intro c
  have hfirst := ha c
  rw [run_on_bind]
  rcases hrun : a.runOn c with ⟨e | x, c'⟩
  · rw [hrun] at hfirst
    exact hfirst
  · rw [hrun] at hfirst
    exact trans_of R hfirst (hf x c')

theorem pool [Std.Refl R] (candidates : List Agent) : Respects R (Controller.pool candidates) :=
  ite (ask _) (pure _)

variable [Std.Refl R] [IsTrans Controller R]

theorem for_m {f : α → Action Unit} {items : List α} (hf : ∀ x, Respects R (f x)) :
    Respects R (items.forM f) := by
  induction items with
  | nil => exact pure ()
  | cons x items ih => exact (hf x).bind fun _ => ih

theorem map_m {f : α → Action β} {items : List α} (hf : ∀ x, Respects R (f x)) :
    Respects R (items.mapM f) := by
  induction items with
  | nil => exact pure []
  | cons x items ih =>
      rw [List.mapM_cons]
      exact (hf x).bind fun _ => ih.bind fun _ => pure _

theorem discard {a : Action α} (ha : Respects R a) : Respects R (discard a) :=
  ha.bind fun _ => pure ()

theorem known_router (id : String) : Respects R (knownRouter id) := by
  refine (ask _).bind fun found => ?_
  cases found with
  | none => exact throw _
  | some r => exact pure r

/-! ## Larger requests -/

open Controller

theorem place {router : String}
    (hinsert : ∀ agent, Respects R
      (commit ((Transaction.insertHost ⟨router, agent⟩).placing router agent)))
    (candidates : List Agent) : Respects R (Controller.place router candidates) := by
  refine (pool candidates).bind fun agents => (consult _).bind fun chosen => ?_
  cases chosen with
  | none => exact pure none
  | some agent => exact (hinsert agent).bind fun _ => pure (some agent)

theorem bring_to {agent : Agent} {host : String}
    (hplace : ∀ router, Respects R (Controller.place router [agent]))
    (hnotify : ∀ routers, Respects R (notify (.routersUpdatedOnHost routers host)))
    (ctx : Context) (port : Port) : Respects R (bringTo ctx port host agent) := by
  refine (ask _).bind fun routers => (for_m fun router => ?_).bind fun _ => ?_
  · refine (consult _).bind fun bound => ite ?_ (pure ())
    exact (hplace router).bind fun _ => pure ()
  · exact ite ((hnotify routers).bind fun _ => pure routers) (pure routers)

theorem bring_routers
    (hplace : ∀ agent router, Respects R (Controller.place router [agent]))
    (hnotify : ∀ routers host, Respects R (notify (.routersUpdatedOnHost routers host)))
    (ctx : Context) (port : Port) : Respects R (bringRouters ctx port) := by
  unfold bringRouters
  cases port.host with
  | none => exact pure []
  | some host =>
      refine (ask _).bind fun found => ?_
      cases found with
      | none => exact pure []
      | some agent => exact bring_to (hplace agent) (hnotify · host) ctx port

theorem remove_host {agent router : String}
    (hdelete : Respects R (commit (Transaction.deleteHost ⟨router, agent⟩).inRequest))
    (hnotify : ∀ host, Respects R (notify (.routerRemoved router host))) :
    Respects R (removeHost agent router) := by
  refine hdelete.bind fun existed => ite ((ask _).bind fun found => ?_) (pure ())
  cases found with
  | none => exact pure ()
  | some a => exact hnotify a.host

theorem remove_router {ctx : Context} {agent router : String}
    (hrelease : Respects R (releaseSnatNode ctx router (some agent)))
    (hremove : Respects R (removeHost agent router))
    (hnotify : ∀ node, Respects R (notifyReleased router node)) :
    Respects R (removeRouter ctx agent router) := by
  refine (known_router router).bind fun r => ite (hrelease.bind fun release => ?_) hremove
  cases release with
  | none => exact hremove
  | some release => exact hnotify release.node

end Respects

/-- A request that answers has answered in each of its parts. -/
theorem ok_of_bind {a : Action α} {f : α → Action β} {c c'' : Controller} {y : β}
    (h : (a >>= f).runOn c = (.ok y, c'')) :
    ∃ x c', a.runOn c = (.ok x, c') ∧ (f x).runOn c' = (.ok y, c'') := by
  rw [run_on_bind] at h
  split at h
  next x c' hrun => exact ⟨x, c', hrun, h⟩
  next => cases h

end RouterBinding.Action
