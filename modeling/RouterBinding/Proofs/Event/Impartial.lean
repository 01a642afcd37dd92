import RouterBinding.Event.Probe
import RouterBinding.Proofs.Event.Delivery
import RouterBinding.Proofs.Event.Run

/-!
# Deleting a port is the same for all

What the deletion of a port removes may belong to others, so it is searched for and removed with the
sight of an administrator, whoever deletes the port. `delete_port_impartial` says of two runs for
different contexts that they agree in all that they answer and leave. Other subscribers may be on
the bus as long as their reactions to deletions do not depend on the context either, but for the
context of the deletions that they publish in turn (`Reaction.Alike`).
-/

namespace RouterBinding

/-! ## The sight of an administrator -/

namespace Directory

variable (d : Directory) (ctx : Context)

theorem port_elevated (id : String) : d.port? ctx.elevated id = d.port? .administrator id := rfl

theorem ports_where_elevated (f : PortFilter) :
    d.portsWhere ctx.elevated f = d.portsWhere .administrator f := rfl

theorem routers_of_port_elevated (port : String) :
    d.routersOfPort ctx.elevated port = d.routersOfPort .administrator port := by
  simp only [routersOfPort, addressesOf, port_elevated, routersOn, interfacesOn,
    ports_where_elevated]

theorem interfaces_of_elevated (router : String) :
    d.interfacesOf ctx.elevated router = d.interfacesOf .administrator router :=
  d.ports_where_elevated ctx _

theorem needs_router_elevated (host router : String) (except? : Option String) :
    d.needsRouter ctx.elevated host router except? =
      d.needsRouter .administrator host router except? := by
  simp only [needsRouter, subnetsOfRouter, servicedOnHost, portsOnHost, ports_where_elevated]

end Directory

namespace Controller

variable (ctx : Context)

theorem tear_down_elevated (port : String) (host : Option String) :
    tearDown ctx port host = tearDown .administrator port host := by
  have hrouter : ∀ host agent, tearDownRouter ctx.elevated port host agent =
      tearDownRouter .administrator port host agent := by
    intro host agent
    funext router
    simp only [tearDownRouter, Directory.needs_router_elevated, Directory.interfaces_of_elevated]
  simp only [tearDown, Directory.routers_of_port_elevated, hrouter]
  rfl

theorem release_snat_node_elevated (router : String) (scope : Option String) :
    releaseSnatNode ctx.elevated router scope = releaseSnatNode .administrator router scope := by
  simp only [releaseSnatNode, Transaction.releaseSnatNode, Transaction.releaseNode,
    Directory.needs_router_elevated]

theorem remove_router_elevated (agent router : String) :
    removeRouter ctx.elevated agent router = removeRouter .administrator agent router := by
  simp only [removeRouter, release_snat_node_elevated]

/-- What a deletion will remove is found for all alike. -/
theorem prepare_delete_elevated (port : Port) :
    prepareDelete ctx port = prepareDelete .administrator port :=
  tear_down_elevated ctx port.id port.host

/-- A deletion is followed for all alike. -/
theorem port_deleted_elevated (port : Port) (removals : List Removal) :
    portDeleted ctx port removals = portDeleted .administrator port removals := by
  simp only [portDeleted, remove_router_elevated]

end Controller

/-! ## Reactions that are the same for all -/

/-- Two reactions do the same, but for the contexts of the deletions that they publish. The
subscribers that they add react to deletions in the same way. -/
inductive Reaction.Alike : Reaction → Reaction → Prop where
  | finish (answer : Except ControllerError Unit) : Alike (.finish answer) (.finish answer)
  | look {next next' : Sight → Reaction} (h : ∀ sight, Alike (next sight) (next' sight)) :
      Alike (.look next) (.look next')
  | request (action : Action Unit) {next next' : Except ControllerError Unit → Reaction}
      (h : ∀ answer, Alike (next answer) (next' answer)) :
      Alike (.request action next) (.request action next')
  | write (line : String) {next next' : Reaction} (h : Alike next next') :
      Alike (.write line next) (.write line next')
  | subscribe (kind : EventKind) (name : String) {handler : Context → PortEvent → Reaction}
      {next next' : Reaction}
      (hhandler : kind = .afterDelete → ∀ ctx ctx' event, event.kind = .afterDelete →
        Alike (handler ctx event) (handler ctx' event))
      (h : Alike next next') :
      Alike (.subscribe kind name handler next) (.subscribe kind name handler next')
  | publish (ctx ctx' : Context) {event : PortEvent} (hkind : event.kind = .afterDelete)
      {next next' : Except DispatchError Unit → Reaction}
      (h : ∀ outcome, Alike (next outcome) (next' outcome)) :
      Alike (.publish ctx event next) (.publish ctx' event next')

/-- A handler treats deletions in the same way for all contexts. -/
def Handler.Impartial (handler : Handler) : Prop :=
  ∀ ctx ctx' event, event.kind = .afterDelete →
    (handler ctx event).Alike (handler ctx' event)

/-- The controller's own handlers are impartial. -/
theorem Bus.router_subscriptions_impartial {s : Subscription}
    (hs : s ∈ Bus.routerSubscriptions) : s.handler.Impartial := by
  intro ctx ctx' event hkind
  cases event with
  | created | updated => cases hkind
  | deleted port removals =>
      have hsame : Controller.portDeleted ctx port removals =
          Controller.portDeleted ctx' port removals := by
        rw [Controller.port_deleted_elevated ctx, Controller.port_deleted_elevated ctx']
      simp only [Bus.routerSubscriptions, List.mem_cons, List.not_mem_nil, or_false] at hs
      obtain rfl | rfl | rfl := hs
      · exact .finish _
      · exact .finish _
      · show Reaction.Alike (.request (Controller.portDeleted ctx port removals) .finish) _
        rw [hsame]
        exact .request _ .finish

theorem Probe.handler_impartial (name : String) (probe : Probe) :
    (probe.handler name).Impartial := by
  have hrecording : ∀ name, (Probe.recording name).Impartial :=
    fun _ _ _ _ _ => .write _ (.finish _)
  intro ctx ctx' event hkind
  cases probe with
  | record => exact hrecording name ctx ctx' event hkind
  | fail => exact .write _ (.finish _)
  | subscribe => exact .write _ (.subscribe _ _ (fun _ => hrecording _) (.finish _))
  | delete => exact .write _ (.publish _ _ rfl fun _ => .write _ (.finish _))

/-- All subscribers to deletions are impartial. -/
def Bus.Impartial (b : Bus) : Prop := ∀ s ∈ b.subscribers .afterDelete, s.handler.Impartial

theorem Bus.Impartial.subscribe {b : Bus} (hb : b.Impartial) {s : Subscription}
    (hs : s.kind = .afterDelete → s.handler.Impartial) : (b.subscribe s).Impartial := by
  intro t ht
  rw [Bus.subscribers_subscribe, List.mem_append] at ht
  split at ht
  next hkind =>
    obtain ht | ht := ht
    · exact hb t ht
    · obtain rfl := List.mem_singleton.1 ht
      exact hs hkind
  next => exact hb t (ht.resolve_right List.not_mem_nil)

/-! ## Two runs -/

/-- Two runs have the same outcome, and the bus is still impartial. -/
def Agree {α : Type} (o o' : Outcome α) : Prop :=
  o = o' ∧ ∀ a y, o = some (a, y) → y.bus.Impartial

namespace Agree

variable {α β : Type}

theorem some {x : Exchange} (hx : x.bus.Impartial) (a : α) : Agree (some (a, x)) (some (a, x)) := by
  refine ⟨rfl, fun _ _ h => ?_⟩
  cases h
  exact hx

theorem bind {o o' : Outcome α} {f f' : α × Exchange → Outcome β} (ho : Agree o o')
    (hf : ∀ a y, y.bus.Impartial → Agree (f (a, y)) (f' (a, y))) :
    Agree (o.bind f) (o'.bind f') := by
  obtain ⟨rfl, hbus⟩ := ho
  cases o with
  | none => exact ⟨rfl, fun _ _ h => nomatch h⟩
  | some result => exact hf _ _ (hbus _ _ rfl)

end Agree

/-- Publishing a deletion is the same for all contexts. -/
def Publisher.Impartial (p : Publisher) : Prop :=
  ∀ ctx ctx' event x, event.kind = .afterDelete → x.bus.Impartial →
    Agree (p ctx event x) (p ctx' event x)

/-- Alike reactions have the same outcome on an impartial bus. -/
theorem Reaction.Alike.run {p : Publisher} (hp : p.Impartial) {r r' : Reaction} (h : r.Alike r')
    {x : Exchange} (hx : x.bus.Impartial) : Agree (r.run p x) (r'.run p x) := by
  induction h generalizing x with
  | finish answer => exact .some hx answer
  | look _ ih => exact ih _ hx
  | request action _ ih => exact ih _ hx
  | write line _ ih => exact ih hx
  | subscribe kind name hhandler _ _ ih => exact ih (hx.subscribe hhandler)
  | publish ctx ctx' hkind _ ih =>
      exact (hp ctx ctx' _ x hkind hx).bind fun outcome y hy => ih outcome hy

namespace Exchange

theorem deliver_impartial {p : Publisher} (hp : p.Impartial) (ctx ctx' : Context)
    {event : PortEvent} (hkind : event.kind = .afterDelete) {subscribers : List Subscription}
    (hsubscribers : ∀ s ∈ subscribers, s.handler.Impartial) {x : Exchange}
    (hx : x.bus.Impartial) :
    Agree (deliver (fun s => (s.handler ctx event).run p) subscribers x)
      (deliver (fun s => (s.handler ctx' event).run p) subscribers x) := by
  induction subscribers generalizing x with
  | nil => exact .some hx _
  | cons s rest ih =>
      obtain ⟨hs, hrest⟩ := List.forall_mem_cons.1 hsubscribers
      refine ((hs ctx ctx' event hkind).run hp hx).bind fun answer y hy => ?_
      simp only [Option.map_eq_bind]
      exact (ih hrest hy).bind fun later z hz => .some hz _

/-- The publication of a deletion is the same for all contexts, however deep. -/
theorem publish_impartial (nesting : Nat) : Publisher.Impartial (publish nesting) := by
  induction nesting with
  | zero => exact fun _ _ _ _ _ _ => ⟨rfl, fun _ _ h => nomatch h⟩
  | succ nesting ih =>
      -- the subscribers are found on the same bus, so only the contexts given to them differ
      intro ctx ctx' event x hkind hx
      refine deliver_impartial ih ctx ctx' hkind ?_ hx
      rw [hkind]
      exact hx

/-- A request leaves the bus alone. -/
theorem bus_of_request {α : Type} {action : Action α} {answer : Except ControllerError α}
    {x y : Exchange} (h : x.request action = (answer, y)) : y.bus = x.bus :=
  congrArg (·.2.bus) h.symm

theorem delete_port_same {x : Exchange} (hx : x.bus.Impartial) (nesting : Nat)
    (ctx ctx' : Context) (port : Port) :
    x.deletePort nesting ctx port = x.deletePort nesting ctx' port := by
  have hprepare : x.request (Controller.prepareDelete ctx port) =
      x.request (Controller.prepareDelete ctx' port) := by
    rw [Controller.prepare_delete_elevated ctx, Controller.prepare_delete_elevated ctx']
  rw [deletePort, deletePort, hprepare]
  rcases hrequest : x.request (Controller.prepareDelete ctx' port) with ⟨e | removals, y⟩
  · rfl
  · have hy : (y.changeDirectory (·.removePort port.id)).bus.Impartial :=
      bus_of_request hrequest ▸ hx
    simp only
    rw [(publish_impartial nesting ctx ctx' _ _ rfl hy).1]

theorem delete_port_ends {x : Exchange} (hx : x.Registered) (nesting : Nat) (ctx : Context)
    (port : Port) : ∃ answer y, x.deletePort (nesting + 1) ctx port = some (answer, y) := by
  rw [deletePort]
  rcases hrequest : x.request (Controller.prepareDelete ctx port) with ⟨e | removals, y⟩
  · exact ⟨_, _, rfl⟩
  · have hy : (y.changeDirectory (·.removePort port.id)).Registered :=
      (bus_of_request hrequest).trans hx
    simp only
    rw [publish_registered hy]
    exact ⟨_, _, rfl⟩

/-- Deleting a port answers and leaves the same for all contexts: the removals, the outcome of the
event, the store, the directory with its links, the notices and all else. It ends if the
subscriptions are the controller's own. -/
theorem delete_port_impartial {x : Exchange}
    (hbus : ∀ s ∈ x.bus.subscribers .afterDelete,
      s ∈ Bus.routerSubscriptions ∨ s.handler.Impartial)
    (nesting : Nat) (ctx ctx' : Context) (port : Port) :
    x.deletePort nesting ctx port = x.deletePort nesting ctx' port ∧
      (x.Registered → ∃ answer y, x.deletePort (nesting + 1) ctx port = some (answer, y)) := by
  have hx : x.bus.Impartial := fun s hs =>
    (hbus s hs).elim Bus.router_subscriptions_impartial id
  exact ⟨delete_port_same hx nesting ctx ctx' port,
    fun hregistered => delete_port_ends hregistered nesting ctx port⟩

end Exchange

/-! ## A port deleted by another tenant -/

namespace SoleHost

/-- Besides the controller a subscriber watches deletions and adds another one. -/
def watched : Exchange :=
  { bound with
    bus := bound.bus.subscribe ⟨.afterDelete, "watch", Probe.subscribe.handler "watch"⟩ }

theorem watched_impartial : ∀ s ∈ watched.bus.subscribers .afterDelete,
    s ∈ Bus.routerSubscriptions ∨ s.handler.Impartial := by
  intro s hs
  have hs : s ∈ bound.bus.subscribers .afterDelete ++
      [⟨.afterDelete, "watch", Probe.subscribe.handler "watch"⟩] := hs
  obtain hs | hs := List.mem_append.1 hs
  · exact .inl (List.mem_filter.1 hs).1
  · obtain rfl := List.mem_singleton.1 hs
    exact .inr (Probe.handler_impartial "watch" .subscribe)

end SoleHost

open SoleHost in
/-- A tenant that owns nothing here deletes the port, and the router is removed from its host as it
is for an administrator. -/
theorem Exchange.delete_port_impartial_watched :
    (∀ s ∈ watched.bus.subscribers .afterDelete,
      s ∈ Bus.routerSubscriptions ∨ s.handler.Impartial) ∧
    watched.deletePort usualNesting ⟨some "t2", false⟩ port =
      watched.deletePort usualNesting .administrator port ∧
    (watched.deletePort usualNesting ⟨some "t2", false⟩ port).map Prod.fst =
      some (.ok ([⟨"r1", "h1", "a1"⟩], .ok ())) ∧
    bound.Registered ∧
    ∃ answer y, bound.deletePort 1 ⟨some "t2", false⟩ port = some (answer, y) := by
  have hregistered : bound.Registered := rfl
  have hbound : ∀ s ∈ bound.bus.subscribers .afterDelete,
      s ∈ Bus.routerSubscriptions ∨ s.handler.Impartial :=
    fun s hs => .inl (List.mem_filter.1 hs).1
  obtain ⟨hsame, -⟩ := delete_port_impartial watched_impartial usualNesting ⟨some "t2", false⟩
    .administrator port
  obtain ⟨-, hends⟩ := delete_port_impartial hbound 0 ⟨some "t2", false⟩ .administrator port
  exact ⟨watched_impartial, hsame, by decide +kernel, hregistered, hends hregistered⟩

end RouterBinding
