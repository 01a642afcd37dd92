import RouterBinding.Operator.Repair
import RouterBinding.Proofs.Event.Reactions

/-!
# Runs

A `Call` is a request to the controller or a repair by the operator. In one `Step` of an exchange a
call is made, an event is published, or the directory changes without the controller. What holds of
the empty store and is kept by every `Store.Write` holds in every `Reachable` exchange
(`Reachable.invariant`), however calls, events and changes follow one another and whichever fail.
-/

namespace RouterBinding

open Relation

/-- A request to the controller, or a repair by the operator. -/
inductive Call where
  | scheduleSnat (router : Router)
  | bindRouter (agent : Agent) (router : Router)
  | releaseSnat (router : String) (scope : Option String)
  | releaseNode (ctx : Context) (router : String) (binding : SnatBinding)
  | releaseSnatNode (ctx : Context) (router : String) (scope : Option String)
  | unschedule (ctx : Context) (router : String) (agents : List String)
  | removeRouter (ctx : Context) (agent router : String)
  | reconcile (ctx : Context) (router : String)
  | purge (agent : String)
  | bringRouters (ctx : Context) (port : Port)
  | tearDown (ctx : Context) (port : String) (host : Option String)
  | place (router : String) (candidates : List Agent)
  | bindHost (agent : Agent) (router : Router)
  | unbindHosts (router : String) (agents : List String)
  | removeHost (agent router : String)
  /-- The operator releases a SNAT binding, with or without the host binding of its agent. -/
  | release (router : String) (scope : Option String) (dropHost : Bool)

namespace Call

open Controller

/-- What a call does; its answer is left out. -/
def action : Call → Action Unit
  | scheduleSnat router => discard (Controller.scheduleSnat router)
  | bindRouter agent router => Controller.bindRouter agent router
  | releaseSnat router scope => discard (Controller.releaseSnat router scope)
  | releaseNode ctx router binding => discard (Controller.releaseNode ctx router binding)
  | releaseSnatNode ctx router scope => discard (Controller.releaseSnatNode ctx router scope)
  | unschedule ctx router agents => Controller.unschedule ctx router agents
  | removeRouter ctx agent router => Controller.removeRouter ctx agent router
  | reconcile ctx router => Controller.reconcile ctx router
  | purge agent => discard (Controller.purge agent)
  | bringRouters ctx port => discard (Controller.bringRouters ctx port)
  | tearDown ctx port host => discard (Controller.tearDown ctx port host)
  | place router candidates => discard (Controller.place router candidates)
  | bindHost agent router => Controller.bindHost agent router
  | unbindHosts router agents => Controller.unbindHosts router agents
  | removeHost agent router => Controller.removeHost agent router
  | release router scope dropHost =>
    discard (Action.commit (Transaction.release router scope dropHost).inRequest)

/-- Whether a practice allows a call: it brings along routers of the practice only, and drops a
host binding on its own only if the practice does. -/
def Within (w : Practice) : Call → Prop
  | scheduleSnat router => w.brings router
  | bindRouter _ router => w.brings router
  | releaseNode _ _ _ => w.dropsHosts
  | unbindHosts _ _ => w.dropsHosts
  | removeHost _ _ => w.dropsHosts
  | _ => True

end Call

namespace Action

variable {α : Type} {w : Practice} {routers : Table String Router}

theorem Obeys.discard {a : Action α} (ha : Obeys w routers a) : Obeys w routers (discard a) :=
  ha.bind fun _ => .pure ()

end Action

namespace Transaction

open Store

variable {w : Practice} {routers : Table String Router} {s : Store}

/-- The operator drops a host binding only with the SNAT binding that names its agent. -/
theorem release_writes (hs : s.Sound) (router : String) (scope : Option String)
    (dropHost : Bool) :
    ReflTransGen (Write w routers) s (s.commit (release router scope dropHost).inRequest).2 := by
  refine writes_of_apply fun a s' h => ?_
  rw [inRequest, map_error_apply, release_sound hs] at h
  cases hrow : s.snatIn? router scope with
  | none =>
      rw [hrow] at h
      cases h
      exact .refl
  | some b =>
      rw [hrow] at h
      have hrow := snat_in_some hrow
      obtain rfl := hs.router_of_snat_row hrow
      cases dropHost <;> cases h
      · exact .single (.dropSnat hrow)
      · exact .single (.dropNode hrow)

end Transaction

namespace Call

open Controller

variable {w : Practice} {routers : Table String Router}

/-- A call within a practice makes the changes of that practice only. -/
theorem action_obeys {call : Call} (hcall : call.Within w) :
    Action.Obeys w routers call.action := by
  cases call with
  | scheduleSnat router => exact (schedule_snat_obeys (.inl hcall)).discard
  | bindRouter agent router => exact bind_router_obeys hcall
  | releaseSnat router scope => exact (release_snat_obeys router scope).discard
  | releaseNode ctx router binding => exact (release_node_obeys hcall ctx router binding).discard
  | releaseSnatNode ctx router scope => exact (release_snat_node_obeys ctx router scope).discard
  | unschedule ctx router agents => exact unschedule_obeys ctx router agents
  | removeRouter ctx agent router => exact remove_router_obeys ctx agent router
  | reconcile ctx router => exact reconcile_obeys ctx router
  | purge agent => exact (purge_obeys agent).discard
  | bringRouters ctx port => exact (bring_routers_obeys ctx port).discard
  | tearDown ctx port host => exact (tear_down_obeys ctx port host).discard
  | place router candidates => exact (place_obeys router candidates).discard
  | bindHost agent router => exact bind_host_obeys agent router
  | unbindHosts router agents => exact unbind_hosts_obeys hcall router agents
  | removeHost agent router => exact remove_host_obeys hcall agent router
  | release router scope dropHost =>
      exact (Action.Obeys.commit fun _ hs =>
        Transaction.release_writes hs router scope dropHost).discard

end Call

theorem Controller.follow_obeys {w : Practice} {routers : Table String Router} (ctx : Context)
    (event : PortEvent) : Action.Obeys w routers (follow ctx event) := by
  cases event with
  | created port => exact port_created_obeys ctx port
  | updated original port => exact port_updated_obeys ctx original port
  | deleted port removals => exact port_deleted_obeys ctx port removals

namespace Exchange

/-- One step of an exchange: a call is made, an event is published, or the directory becomes another
one that is admitted and the words drawn for choices are others. -/
inductive Step (w : Practice) (admits : Directory → Prop) : Exchange → Exchange → Prop where
  | call {x : Exchange} (call : Call) (hcall : call.Within w) :
      Step w admits x (x.request call.action).2
  | publish {x y : Exchange} (nesting : Nat) (ctx : Context) (event : PortEvent)
      (outcome : Except DispatchError Unit)
      (hpublish : x.publish nesting ctx event = some (outcome, y)) : Step w admits x y
  | change {x : Exchange} (d : Directory) (draws : Draws) (hadmits : admits d) :
      Step w admits x
        { x with controller := { x.controller with directory := d, draws := draws } }

/-- The exchanges that steps lead to from an empty store, with the controller's subscriptions. -/
inductive Reachable (w : Practice) (admits : Directory → Prop) : Exchange → Prop where
  | start {x : Exchange} (hbus : x.Registered) (hstore : x.controller.store = ∅)
      (hadmits : admits x.controller.directory) : Reachable w admits x
  | step {x y : Exchange} (hx : Reachable w admits x) (hstep : Step w admits x y) :
      Reachable w admits y

variable {w : Practice} {admits : Directory → Prop} {x y : Exchange}

/-- In one step the controller moves, or the directory changes and the store does not. -/
theorem Step.cases (h : Step w admits x y) (hbus : x.Registered) (hs : x.controller.store.Sound) :
    y.Registered ∧ (x.controller.Moves w y.controller ∨
      admits y.controller.directory ∧ y.controller.store = x.controller.store) := by
  cases h with
  | call call hcall => exact ⟨hbus, .inl (Call.action_obeys hcall x.controller hs rfl)⟩
  | publish nesting ctx event outcome hpublish =>
      cases nesting with
      -- without nesting nothing is published, and there is no such step
      | zero => cases hpublish
      | succ nesting =>
          rw [publish_registered hbus] at hpublish
          cases hpublish
          exact ⟨hbus, .inl (Controller.follow_obeys ctx event x.controller hs rfl)⟩
  | change d draws hadmits => exact ⟨hbus, .inr ⟨hadmits, rfl⟩⟩

/-- A property of stores that each write keeps while the directory is admitted. -/
structure Invariant (w : Practice) (admits : Directory → Prop) (P : Store → Prop) : Prop where
  empty : P ∅
  write : ∀ d s s', admits d → s.Sound → P s → Store.Write w d.routers s s' → P s'

/-- What the empty store has and every write keeps, every reachable exchange has. -/
theorem Reachable.invariant {P : Store → Prop} (hx : Reachable w admits x)
    (hlinks : ∀ d d', admits d → d.Relinks d' → admits d') (hP : Invariant w admits P) :
    x.Registered ∧ admits x.controller.directory ∧ x.controller.store.Sound ∧
      P x.controller.store := by
  induction hx with
  | start hbus hstore hadmits => exact ⟨hbus, hadmits, hstore ▸ .empty, hstore ▸ hP.empty⟩
  | @step x y hx hstep ih =>
      obtain ⟨hbus, hadmits, hs, hPx⟩ := ih
      obtain ⟨hbus', hmoves | ⟨hadmits', hstore⟩⟩ := hstep.cases hbus hs
      · obtain ⟨hs', hPy⟩ := Store.Write.invariant
          (fun s s' hs hPs hwrite => hP.write _ s s' hadmits hs hPs hwrite) hmoves.store hs hPx
        exact ⟨hbus', hlinks _ _ hadmits hmoves.links, hs', hPy⟩
      · exact ⟨hbus', hadmits', hstore ▸ hs, hstore ▸ hPx⟩

/-- Where the directory serves all along, the subscriptions are the controller's own, the directory
serves and the store is sound. -/
theorem Reachable.serving (hx : Reachable w Directory.Serving x) :
    x.Registered ∧ x.controller.directory.Serving ∧ x.controller.store.Sound := by
  obtain ⟨hbus, hd, hs, -⟩ := hx.invariant (P := fun _ => True)
    (fun _ _ hd hlinks => hd.relinks hlinks) ⟨trivial, fun _ _ _ _ _ _ _ => trivial⟩
  exact ⟨hbus, hd, hs⟩

end Exchange

/-! ## A router on one host -/

namespace SoleHost

def router : Router := ⟨"r1", "t1", true, some ⟨"ext", none⟩⟩

def agent : Agent := .reporting "a1" "h1" "dvr_snat"

/-- The interface of the router on the subnet. -/
def interface : Port :=
  ⟨"if1", "t1", "n1", "r1", DeviceOwner.routerInterface, "m0", none, [⟨"s1", "10.0.0.1"⟩]⟩

/-- The only serviced port on the subnet, on the host of the agent. -/
def port : Port :=
  ⟨"p1", "t1", "n1", "vm1", "compute:nova", "m1", some "h1", [⟨"s1", "10.0.0.5"⟩]⟩

def directory : Directory :=
  ((((∅ : Directory).putAgent agent).putRouter router).putPort interface).putPort port

def start : Exchange := ⟨⟨directory, ∅, .ofSeed 0, []⟩, Bus.registerRouter {}, []⟩

/-- The agent translates for the router. -/
def bound : Exchange := (start.request (Call.bindRouter agent router).action).2

theorem directory_serving : directory.Serving :=
  (((Directory.Serving.empty.put_agent agent).put_router router).put_port interface).put_port port

theorem bound_reachable {w : Practice} {admits : Directory → Prop} (hw : w.brings router)
    (hadmits : admits directory) : Exchange.Reachable w admits bound := by
  have hbus : start.Registered := rfl
  exact .step (.start hbus rfl hadmits) (.call (.bindRouter agent router) hw)

end SoleHost

end RouterBinding
