import RouterBinding.Event.Lifecycle
import RouterBinding.Proofs.Controller.Removal

/-!
# How the controller follows ports, while the directory serves

With a serving directory and a sound store each reaction to a port event is a change of the store
in closed form: `Store.arrival` for a port that comes, `Store.removals` for the removals that its
leaving makes due. `follow_serving` says so for every event, and `publish_registered` that
publishing an event to the controller's own subscriptions is that reaction and nothing more.
-/

namespace RouterBinding

namespace Directory

/-- The removals that an update makes due. -/
def departing (d : Directory) (ctx : Context) (original port : Port) : List Removal :=
  if original.isServiced && !port.isServiced || Controller.leaves original port then
    d.leaving ctx.elevated original.id original.host
  else []

/-- The removals that follow from an event. -/
def due (d : Directory) (ctx : Context) : PortEvent → List Removal
  | .created _ => []
  | .updated original port => d.departing ctx original port
  | .deleted _ removals => removals

/-- How the controller answers an event: only removals can fail. -/
def followed (d : Directory) (ctx : Context) (event : PortEvent) : Except ControllerError Unit :=
  d.removed (d.due ctx event)

end Directory

namespace Store

/-- The store once a port that is serviced has arrived. -/
def arrivalIf (s : Store) (arrives : Bool) (d : Directory) (ctx : Context) (port : Port) : Store :=
  if arrives && port.isServiced then s.arrival d ctx port else s

/-- The store after the controller followed an event. An update brings a port to its host only
once all that it left behind is removed. -/
def followed (s : Store) (d : Directory) (ctx : Context) : PortEvent → Store
  | .created port => s.arrivalIf true d ctx port
  | .updated original port =>
    let rs := d.departing ctx original port
    let s := s.removals d ctx.elevated rs
    s.arrivalIf (Controller.arrives original port && rs.all fun q => d.knows q.router) d ctx port
  | .deleted _ removals => s.removals d ctx.elevated removals

theorem Sound.arrival_if {s : Store} (hs : s.Sound) (arrives : Bool) (d : Directory)
    (ctx : Context) (port : Port) : (s.arrivalIf arrives d ctx port).Sound := by
  unfold arrivalIf
  split
  · exact hs.arrival d ctx port
  · exact hs

theorem Sound.followed {s : Store} (hs : s.Sound) (d : Directory) (ctx : Context)
    (event : PortEvent) : (s.followed d ctx event).Sound := by
  cases event with
  | created port => exact hs.arrival_if _ d ctx port
  | updated original port => exact (hs.removals _).arrival_if _ d ctx port
  | deleted port removals => exact hs.removals removals

theorem snat_row_arrival_if (s : Store) (arrives : Bool) (d : Directory) (ctx : Context)
    (port : Port) (router : String) :
    (s.arrivalIf arrives d ctx port).snatRow? router = s.snatRow? router := by
  unfold arrivalIf
  split
  · exact snat_row_arrival s d ctx port router
  · rfl

/-- Of what follows an event only the removals touch SNAT bindings. -/
theorem snat_row_followed (s : Store) (d : Directory) (ctx : Context) (event : PortEvent)
    (router : String) :
    (s.followed d ctx event).snatRow? router =
      (s.removals d ctx.elevated (d.due ctx event)).snatRow? router := by
  cases event with
  | created port => exact snat_row_arrival_if s _ d ctx port router
  | updated original port => exact snat_row_arrival_if _ _ d ctx port router
  | deleted port removals => rfl

/-- The port that an event brings to its host. -/
def arriving? : PortEvent → Option Port
  | .created port => if port.isServiced then some port else none
  | .updated original port =>
    if Controller.arrives original port && port.isServiced then some port else none
  | .deleted _ _ => none

/-- Where only known routers without gateway are to be removed, what follows an event unbinds those
and binds the routers that the arriving port attaches to. -/
theorem is_bound_followed {s : Store} {d : Directory} {ctx : Context} {event : PortEvent}
    (hdue : ∀ q ∈ d.due ctx event,
      ∃ r, d.routers.get? q.router = some r ∧ r.hasGateway = false) (router agent : String) :
    (s.followed d ctx event).isBound router agent ↔
      (s.isBound router agent ∧ ¬∃ q ∈ d.due ctx event, q.router = router ∧ q.agent = agent) ∨
      ∃ port a, arriving? event = some port ∧ port.host.bind d.agentOn? = some a ∧ a.isActive ∧
        a.id = agent ∧ router ∈ d.attached ctx port.fixedIps := by
  have hremovals : (s.removals d ctx.elevated (d.due ctx event)).isBound router agent ↔ _ :=
    is_bound_removals hdue router agent
  rw [← hremovals]
  cases event with
  | created port =>
      unfold followed arrivalIf arriving?
      cases hserviced : port.isServiced with
      | false => simp [Directory.due, hserviced]
      | true => simp [Directory.due, hserviced, is_bound_arrival]
  | updated original port =>
      -- no removal fails, so nothing keeps the port from arriving
      have hall : ((d.departing ctx original port).all fun q => d.knows q.router) = true := by
        refine List.all_eq_true.2 fun q hq => ?_
        obtain ⟨r, hr, -⟩ := hdue q hq
        exact Directory.knows_of_found hr
      simp only [followed, arrivalIf, arriving?, Directory.due, hall, Bool.and_true]
      cases Controller.arrives original port && port.isServiced with
      | false => simp
      | true => simp [is_bound_arrival]
  | deleted port removals => simp [followed, arriving?, Directory.due]

end Store

namespace Controller

open RouterBinding.Action

/-- A request answers and leaves a store; besides, it may change links and send notices. -/
def Does {α : Type} (a : Action α) (c : Controller) (x : Except ControllerError α) (s : Store) :
    Prop :=
  ∃ d sent, a.runOn c = (x, { c with directory := d, store := s, sent := sent }) ∧
    c.directory.Relinks d

namespace Does

variable {α β : Type} {a : Action α} {f : α → Action β} {c : Controller} {s s' : Store}

theorem pure (x : α) : Does (pure x) c (.ok x) c.store := ⟨c.directory, c.sent, rfl, .refl _⟩

theorem notify (n : Notice) : Does (notify n) c (.ok ()) c.store :=
  ⟨c.directory, _, rfl, .refl _⟩

theorem of_answers {x : α} (h : Answers a c x) : Does a c (.ok x) c.store := by
  obtain ⟨d, hrun, hlinks⟩ := h
  exact ⟨d, c.sent, hrun, hlinks⟩

theorem of_run {x : Except ControllerError α}
    (h : ∃ sent, a.runOn c = (x, { c with store := s, sent := sent })) : Does a c x s := by
  obtain ⟨sent, hrun⟩ := h
  exact ⟨c.directory, sent, hrun, .refl _⟩

theorem bind {x : α} {y : Except ControllerError β} (ha : Does a c (.ok x) s)
    (hf : ∀ d sent, c.directory.Relinks d →
      Does (f x) { c with directory := d, store := s, sent := sent } y s') :
    Does (a >>= f) c y s' := by
  obtain ⟨d, sent, hrun, hlinks⟩ := ha
  obtain ⟨d', sent', hrun', hlinks'⟩ := hf d sent hlinks
  exact ⟨d', sent', by rw [run_on_bind, hrun]; exact hrun', hlinks.trans hlinks'⟩

theorem bind_error {e : ControllerError} (ha : Does a c (.error e) s) :
    Does (a >>= f) c (.error e) s := by
  obtain ⟨d, sent, hrun, hlinks⟩ := ha
  exact ⟨d, sent, by rw [run_on_bind, hrun], hlinks⟩

end Does

variable {c : Controller}

theorem refresh_arp_does (port : Port) (action : ArpAction) :
    Does (refreshArp port action) c (.ok ()) c.store := by
  unfold refreshArp
  split
  · exact .notify _
  · exact .pure ()

/-- A serviced port brings its routers; nothing else happens to the store. -/
theorem port_created_does (hd : c.directory.Serving) (hs : c.store.Sound) (ctx : Context)
    (port : Port) :
    Does (portCreated ctx port) c (.ok ()) (c.store.arrivalIf true c.directory ctx port) := by
  unfold portCreated Store.arrivalIf
  cases port.isServiced with
  | false => exact .pure ()
  | true =>
      obtain ⟨routers, hbring⟩ := bring_routers_serving hd hs ctx port
      exact (Does.of_run hbring).bind fun d sent _ => refresh_arp_does port .add

theorem port_deleted_does (hd : c.directory.Serving) (hs : c.store.Sound) (ctx : Context)
    (port : Port) (rs : List Removal) :
    Does (portDeleted ctx port rs) c (c.directory.removed rs)
      (c.store.removals c.directory ctx.elevated rs) := by
  refine (refresh_arp_does port .del).bind fun d sent hlinks => ?_
  have hrun := remove_routers_serving ctx.elevated rs
    (c := { c with directory := d, sent := sent }) (hd.relinks hlinks) hs
  simp only at hrun
  rw [hlinks.same (·.removed rs) fun _ _ => rfl,
    hlinks.same (c.store.removals · ctx.elevated rs) fun _ _ => rfl] at hrun
  exact .of_run hrun

/-- What a port leaves behind on its host is removed. -/
theorem departed_does (hd : c.directory.Serving) (hs : c.store.Sound) (ctx : Context)
    (original : Port) :
    Does (departed ctx original) c
      (c.directory.removed (c.directory.leaving ctx.elevated original.id original.host))
      (c.store.removals c.directory ctx.elevated
        (c.directory.leaving ctx.elevated original.id original.host)) := by
  refine (Does.of_answers (tear_down_serving hd ctx original.id original.host)).bind
    fun d sent hlinks => ?_
  generalize c.directory.leaving ctx.elevated original.id original.host = rs
  cases rs with
  | nil => exact .pure ()
  | cons q rs =>
      have hdone := port_deleted_does (c := { c with directory := d, sent := sent })
        (hd.relinks hlinks) hs ctx original (q :: rs)
      simp only at hdone
      rwa [hlinks.same (·.removed (q :: rs)) fun _ _ => rfl,
        hlinks.same (c.store.removals · ctx.elevated (q :: rs)) fun _ _ => rfl] at hdone

theorem arrived_does (hd : c.directory.Serving) (hs : c.store.Sound) (ctx : Context)
    (original port : Port) :
    Does (arrived ctx original port) c (.ok ())
      (c.store.arrivalIf (arrives original port) c.directory ctx port) := by
  unfold arrived Store.arrivalIf
  split
  · obtain ⟨routers, hbring⟩ := bring_routers_serving hd hs ctx port
    exact (Does.of_run hbring).bind fun d sent _ => refresh_arp_does port .add
  · split
    · exact refresh_arp_does port .add
    · exact .pure ()

theorem port_updated_does (hd : c.directory.Serving) (hs : c.store.Sound) (ctx : Context)
    (original port : Port) :
    Does (portUpdated ctx original port) c
      (c.directory.removed (c.directory.departing ctx original port))
      (c.store.followed c.directory ctx (.updated original port)) := by
  have hfollowed : c.store.followed c.directory ctx (.updated original port) =
      (c.store.removals c.directory ctx.elevated
        (c.directory.departing ctx original port)).arrivalIf
        (arrives original port &&
          (c.directory.departing ctx original port).all fun q => c.directory.knows q.router)
        c.directory ctx port := rfl
  rw [hfollowed]
  unfold portUpdated Directory.departing
  split
  next =>
    have hdeparted := departed_does hd hs ctx original
    generalize c.directory.leaving ctx.elevated original.id original.host = rs at hdeparted ⊢
    cases hremoved : c.directory.removed rs with
    | error e =>
        -- an unknown router ended the removals, and the port does not arrive
        have hall : (rs.all fun q => c.directory.knows q.router) = false := by
          refine Bool.eq_false_iff.2 fun hall => ?_
          rw [Directory.removed_eq_ok_iff.2 (List.all_eq_true.1 hall)] at hremoved
          cases hremoved
        rw [hremoved] at hdeparted
        rw [hall, Bool.and_false]
        exact hdeparted.bind_error
    | ok u =>
        have hall : (rs.all fun q => c.directory.knows q.router) = true :=
          List.all_eq_true.2 (Directory.removed_eq_ok_iff.1 hremoved)
        rw [hremoved] at hdeparted
        rw [hall, Bool.and_true]
        refine hdeparted.bind fun d sent hlinks => ?_
        have harrived := arrived_does
          (c := { c with
            directory := d
            store := c.store.removals c.directory ctx.elevated rs
            sent := sent })
          (hd.relinks hlinks) (hs.removals rs) ctx original port
        simp only at harrived
        rw [hlinks.same (Store.arrivalIf _ _ · ctx port) fun _ _ => rfl] at harrived
        cases hserviced : port.isServiced with
        | true => exact harrived
        | false =>
            -- a port that is no longer serviced does not even ask for its routers
            rw [Store.arrivalIf, hserviced, Bool.and_false]
            exact .pure ()
  next =>
    have harrived := arrived_does hd hs ctx original port
    rw [List.all_nil, Bool.and_true]
    exact harrived

/-- What the controller does about an event. -/
def follow (ctx : Context) : PortEvent → Action Unit
  | .created port => portCreated ctx port
  | .updated original port => portUpdated ctx original port
  | .deleted port removals => portDeleted ctx port removals

/-- Every event is followed in closed form. -/
theorem follow_serving (hd : c.directory.Serving) (hs : c.store.Sound) (ctx : Context)
    (event : PortEvent) :
    Does (follow ctx event) c (c.directory.followed ctx event)
      (c.store.followed c.directory ctx event) := by
  cases event with
  | created port => exact port_created_does hd hs ctx port
  | updated original port => exact port_updated_does hd hs ctx original port
  | deleted port removals => exact port_deleted_does hd hs ctx port removals

end Controller

namespace Exchange

/-- The subscriptions are the controller's own. -/
def Registered (x : Exchange) : Prop := x.bus = Bus.registerRouter {}

/-- The subscription by which the controller follows events of a kind. -/
def follower : EventKind → String
  | .afterCreate => "dvr_new_port"
  | .afterUpdate => "dvr_port_update"
  | .afterDelete => "dvr_port_delete"

/-- Each kind of event has one subscriber, which follows the events of its kind. -/
theorem subscribers_registered (kind : EventKind) :
    ∃ s : Subscription, (Bus.registerRouter {}).subscribers kind = [s] ∧ s.kind = kind ∧
      s.name = follower kind ∧ ∀ ctx event, event.kind = kind →
        s.handler ctx event = .request (Controller.follow ctx event) .finish := by
  cases kind <;> refine ⟨_, rfl, rfl, rfl, fun ctx event h => ?_⟩ <;> cases event <;>
    first
    | rfl
    | cases h

/-- A lone subscriber that puts one request gives the answer of the event. -/
theorem deliver_request
    (publish : Context → PortEvent → Exchange → Outcome (Except DispatchError Unit))
    (ctx : Context) (event : PortEvent) {s : Subscription} {a : Action Unit}
    (h : s.handler ctx event = .request a .finish) (x : Exchange) :
    deliver (fun s => (s.handler ctx event).run publish) [s] x =
      some ((a.runOn x.controller).1.mapError fun e => ⟨s.name, s.kind, e⟩,
        { x with controller := (a.runOn x.controller).2 }) := by
  rw [deliver, h]
  rcases hrun : a.runOn x.controller with ⟨e | u, c⟩
  · simp [Reaction.run, hrun, deliver, firstFailure]
  · simp [Reaction.run, hrun, deliver, firstFailure]

/-- Publishing an event to the controller's subscriptions has the controller follow it, and names
the subscription if that fails. -/
theorem publish_registered {x : Exchange} (hx : x.Registered) (nesting : Nat) (ctx : Context)
    (event : PortEvent) :
    publish (nesting + 1) ctx event x =
      some (((Controller.follow ctx event).runOn x.controller).1.mapError
          fun e => ⟨follower event.kind, event.kind, e⟩,
        { x with controller := ((Controller.follow ctx event).runOn x.controller).2 }) := by
  obtain ⟨s, hs, hkind, hname, hhandler⟩ := subscribers_registered event.kind
  have hbus : x.bus.subscribers event.kind = [s] := by rw [hx, hs]
  rw [publish, hbus, deliver_request (publish nesting) ctx event (hhandler ctx event rfl), hkind,
    hname]

/-- An event that is followed well is published well. -/
theorem publish_followed {x : Exchange} (hx : x.Registered) (nesting : Nat) {ctx : Context}
    {event : PortEvent} (h : ((Controller.follow ctx event).runOn x.controller).1 = .ok ()) :
    publish (nesting + 1) ctx event x =
      some (.ok (),
        { x with controller := ((Controller.follow ctx event).runOn x.controller).2 }) := by
  rw [publish_registered hx, h]
  rfl

end Exchange

end RouterBinding
