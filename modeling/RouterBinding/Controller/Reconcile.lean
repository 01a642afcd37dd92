import RouterBinding.Controller.Snat

/-!
# Reconciliation

After a router changed, `reconcile` schedules or releases its address translation to match its
gateway; after an agent is gone, `purge` drops all its bindings.
-/

namespace RouterBinding.Controller

open RouterBinding.Action

/-- Schedules the address translation of a router and tells the host it was bound to. -/
def reconcileGateway (router : Router) : Action Unit := do
  match ← scheduleSnat router with
  | .bound agent => notify (.routersUpdatedOnHost [router.id] agent.host)
  | _ => return ()

/-- Releases the address translation of a router and tells the host that gave it up. -/
def reconcileNoGateway (ctx : Context) (router : Router) (id : String) : Action Unit := do
  match ← releaseSnatNode ctx id none with
  | some ⟨_, .removed host⟩ => notify (.routerRemoved id host)
  | some ⟨_, .kept host⟩ => notify (.routersUpdatedOnHost [router.id] host)
  | none => return ()

/-- Makes the SNAT binding of a distributed router match its gateway. -/
def reconcile (ctx : Context) (router : String) : Action Unit := do
  let r ← knownRouter router
  if r.distributed then
    match r.hasGateway, ← consult (·.snatOf? router) with
    | true, none => reconcileGateway r
    | false, some _ => reconcileNoGateway ctx r router
    | _, _ => return ()

/-- Drops every binding of an agent: the numbers of SNAT and of host bindings dropped. -/
def purge (agent : String) : Action (Nat × Nat) :=
  commit (Transaction.deleteAgent agent).inRequest

end RouterBinding.Controller
