import RouterBinding.Proofs.Event.Lifecycle

/-!
# Services that are out

Where services are out a request may fail, but one that answers has asked none of them: once all are
up it answers the same and leaves the same. The rules of `Directory.Steady` and `Action.Steady`
follow the parts of questions and requests. `PortOperation.run_restored` says so of an operation
that ends well, so what holds of it while the directory serves holds over every directory.
-/

namespace RouterBinding

namespace Directory

/-- The same directory with every service up. -/
def restored (d : Directory) : Directory := { d with outages := [] }

theorem Serving.restored {d : Directory} (hd : d.Serving) : d.restored.Serving :=
  { hd with up := rfl }

/-- A question that has an answer has the same one once every service is up. -/
def Steady {α : Type} (question : Directory → Except Fault α) : Prop :=
  ∀ d x, question d = .ok x → question d.restored = .ok x

namespace Steady

variable {α β : Type}

theorem pure (x : α) : Steady fun _ => .ok x := fun _ _ h => h

/-- A service answers from the tables, which are the same. -/
theorem ask (service : Service) {answer : Directory → α}
    (h : ∀ d, answer d.restored = answer d) : Steady fun d => d.ask service (answer d) := by
  intro d x hanswer
  rw [of_ask_ok hanswer, ← h d]
  rfl

theorem bind {question : Directory → Except Fault α} {next : α → Directory → Except Fault β}
    (hquestion : Steady question) (hnext : ∀ x, Steady (next x)) :
    Steady fun d => question d >>= fun x => next x d := by
  intro d y h
  cases hfirst : question d with
  | error e =>
      simp only [hfirst] at h
      cases h
  | ok x =>
      simp only [hfirst] at h
      simp only [hquestion d x hfirst]
      exact hnext x d y h

theorem map {question : Directory → Except Fault α} (hquestion : Steady question) (f : α → β) :
    Steady fun d => (question d).map f := by
  intro d y h
  cases hfirst : question d with
  | error e =>
      simp only [hfirst] at h
      cases h
  | ok x =>
      simp only [hfirst] at h
      simp only [hquestion d x hfirst]
      exact h

theorem map_m {question : α → Directory → Except Fault β} {items : List α}
    (h : ∀ x, Steady (question x)) : Steady fun d => items.mapM fun x => question x d := by
  induction items with
  | nil => exact pure []
  | cons x items ih =>
      simp only [List.mapM_cons]
      exact (h x).bind fun _ => ih.bind fun _ => pure _

theorem any_m {question : α → Directory → Except Fault Bool} {items : List α}
    (h : ∀ x, Steady (question x)) : Steady fun d => items.anyM fun x => question x d := by
  induction items with
  | nil => exact pure false
  | cons x items ih =>
      simp only [List.anyM_cons]
      refine (h x).bind fun found => ?_
      cases found with
      | true => exact pure true
      | false => exact ih

end Steady

/-! ## Questions -/

variable (ctx : Context)

theorem router_steady (id : String) : Steady (·.router? id) := .ask _ fun _ => rfl

theorem agent_steady (id : String) : Steady (·.agent? id) := .ask _ fun _ => rfl

theorem active_agents_steady : Steady (·.activeAgents) := .ask _ fun _ => rfl

theorem agent_on_host_steady (host : String) : Steady (·.agentOnHost? host) := by
  have hfound : Steady (·.agentsWhere { host := some host }) := .ask _ fun _ => rfl
  exact hfound.map List.head?

theorem link_steady (port host : String) : Steady (·.link? port host) := .ask _ fun _ => rfl

theorem host_of_port_steady (id : String) : Steady (·.hostOfPort? id) := .ask _ fun _ => rfl

theorem ports_where_steady (f : PortFilter) : Steady (·.portsWhere ctx f) := .ask _ fun _ => rfl

theorem routers_on_steady (ips : List FixedIp) : Steady (·.routersOn ctx ips) :=
  (Steady.map_m fun _ => ports_where_steady ctx _).bind fun _ => .pure _

theorem routers_of_port_steady (port : String) : Steady (·.routersOfPort ctx port) := by
  have hport : Steady (·.port? ctx port) := .ask _ fun _ => rfl
  have haddresses : Steady (·.addressesOf ctx port) := by
    refine hport.bind fun found => ?_
    cases found with
    | none => exact .pure []
    | some p => exact .pure p.fixedIps
  exact haddresses.bind fun ips => routers_on_steady ctx ips

theorem needs_router_steady (host router : String) (except? : Option String) :
    Steady (·.needsRouter ctx host router except?) := by
  have hsubnets : Steady (·.subnetsOfRouter ctx router) :=
    (ports_where_steady ctx _).bind fun _ => .pure _
  refine hsubnets.bind fun subnets => .any_m fun subnet => ?_
  exact (ports_where_steady ctx _).bind fun _ => .pure _

theorem interfaces_steady (router : String) : Steady (·.interfacesOf ctx router) :=
  ports_where_steady ctx _

/-- A link that is replaced is replaced once every service is up, too. -/
theorem update_link_restored {d d' : Directory} {l : InterfaceLink}
    (h : d.updateLink l = .ok d') : d.restored.updateLink l = .ok d'.restored := by
  unfold updateLink at h ⊢
  cases hanswer : d.ask .linkUpdate () with
  | error e =>
      rw [hanswer] at h
      cases h
  | ok u =>
      rw [hanswer] at h
      replace h : (if d.links.contains l.key then _ else _) = _ := h
      show (if d.links.contains l.key then Except.ok (d.restored.putLink l) else _) = _
      split at h
      next hthere =>
        cases h
        rw [if_pos hthere]
        rfl
      next => cases h

end Directory

/-- The same controller with every service up. -/
def Controller.restored (c : Controller) : Controller :=
  { c with directory := c.directory.restored }

namespace Action

variable {α β : Type}

/-- A request that answers has the same answer once every service is up, and leaves the same. -/
def Steady (a : Action α) : Prop :=
  ∀ c x c', a.runOn c = (.ok x, c') → a.runOn c.restored = (.ok x, c'.restored)

namespace Steady

theorem pure (x : α) : Steady (pure x) := by
  intro c y c' h
  cases h
  rfl

theorem throw (e : ControllerError) : Steady (throw e : Action α) := by
  intro c x c' h
  cases h

theorem ask {question : Directory → Except Fault α} (hquestion : Directory.Steady question) :
    Steady (ask question) := by
  intro c x c' h
  rw [run_on_ask] at h
  cases hanswer : question c.directory with
  | error e =>
      rw [hanswer] at h
      cases h
  | ok y =>
      rw [hanswer] at h
      cases h
      rw [run_on_ask]
      show ((question c.directory.restored).mapError ofFault, _) = _
      rw [hquestion _ _ hanswer]
      rfl

theorem consult (query : Store → Except StoreError α) : Steady (consult query) := by
  intro c x c' h
  rw [run_on_consult] at h
  obtain ⟨hanswer, rfl⟩ := Prod.mk.inj h
  rw [run_on_consult, ← hanswer]
  rfl

theorem commit (t : Transaction ControllerError α) : Steady (commit t) := by
  intro c x c' h
  rw [run_on_commit] at h
  obtain ⟨hanswer, rfl⟩ := Prod.mk.inj h
  rw [run_on_commit, ← hanswer]
  rfl

theorem notify (n : Notice) : Steady (notify n) := by
  intro c x c' h
  cases h
  rfl

theorem bind {a : Action α} {f : α → Action β} (ha : Steady a) (hf : ∀ x, Steady (f x)) :
    Steady (a >>= f) := by
  intro c y c'' h
  rw [run_on_bind] at h
  rcases hfirst : a.runOn c with ⟨e | x, c'⟩
  · rw [hfirst] at h
    cases h
  · rw [hfirst] at h
    rw [run_on_bind, ha c x c' hfirst]
    exact hf x c' y c'' h

theorem ite {p : Prop} [Decidable p] {a b : Action α} (ha : Steady a) (hb : Steady b) :
    Steady (if p then a else b) := by
  split
  · exact ha
  · exact hb

theorem for_m {f : α → Action Unit} {items : List α} (hf : ∀ x, Steady (f x)) :
    Steady (items.forM f) := by
  induction items with
  | nil => exact pure ()
  | cons x items ih => exact (hf x).bind fun _ => ih

theorem map_m {f : α → Action β} {items : List α} (hf : ∀ x, Steady (f x)) :
    Steady (items.mapM f) := by
  induction items with
  | nil => exact pure []
  | cons x items ih =>
      rw [List.mapM_cons]
      exact (hf x).bind fun _ => ih.bind fun _ => pure _

theorem known_router (id : String) : Steady (knownRouter id) := by
  refine (ask (Directory.router_steady id)).bind fun found => ?_
  cases found with
  | none => exact throw _
  | some r => exact pure r

end Steady

end Action

namespace Controller

open RouterBinding.Action

/-! ## Requests -/

variable (ctx : Context)

theorem ensure_host_steady (agent : Agent) (router : String) :
    Steady (ensureHost agent router) := by
  have hplace : Steady (place router [agent]) := by
    refine Steady.bind (.pure _) fun agents => .bind (.consult _) fun chosen => ?_
    cases chosen with
    | none => exact .pure none
    | some agent => exact (Steady.commit _).bind fun _ => .pure (some agent)
  refine Steady.bind (.consult _) fun bound => .ite ?_ (.pure ())
  exact hplace.bind fun _ => .pure ()

theorem bring_routers_steady (port : Port) : Steady (bringRouters ctx port) := by
  unfold bringRouters
  cases port.host with
  | none => exact .pure []
  | some host =>
      refine (Steady.ask (Directory.agent_on_host_steady host)).bind fun found => ?_
      cases found with
      | none => exact .pure []
      | some agent =>
          refine (Steady.ask (Directory.routers_on_steady ctx _)).bind fun routers => ?_
          refine (Steady.for_m fun router => ensure_host_steady agent router).bind fun _ => ?_
          exact .ite ((Steady.notify _).bind fun _ => .pure routers) (.pure routers)

theorem unlink_steady (host : String) (interface : Port) : Steady (unlink host interface) := by
  refine (Steady.ask (Directory.link_steady _ _)).bind fun found => ?_
  cases found with
  | none => exact .pure ()
  | some link =>
      intro c x c' h
      rcases hlink : c.directory.updateLink { link with router := none } with e | d
      · rw [run_on_change_error hlink] at h
        cases h
      · rw [run_on_change_ok hlink] at h
        cases h
        exact run_on_change_ok (Directory.update_link_restored hlink)

theorem tear_down_router_steady (port host : String) (agent : Option Agent)
    (router : String) : Steady (tearDownRouter ctx port host agent router) := by
  refine (Steady.ask (Directory.needs_router_steady ctx _ _ _)).bind fun needed =>
    .ite (.pure none) ?_
  cases agent with
  | none => exact .pure none
  | some agent =>
      refine (Steady.ask (Directory.interfaces_steady ctx router)).bind fun interfaces => ?_
      exact (Steady.for_m fun interface => unlink_steady host interface).bind fun _ => .pure _

theorem tear_down_steady (port : String) (host : Option String) :
    Steady (tearDown ctx port host) := by
  have hleft : Steady (leftHost port host) := by
    unfold leftHost
    cases host.filter (· ≠ "") with
    | none => exact .ask (Directory.host_of_port_steady port)
    | some host => exact .pure _
  refine (Steady.ask (Directory.routers_of_port_steady ctx.elevated port)).bind fun routers =>
    hleft.bind fun found => ?_
  cases found with
  | none => exact .pure []
  | some host =>
      refine .ite (.pure []) ((Steady.ask (Directory.agent_on_host_steady host)).bind
        fun agent => ?_)
      exact (Steady.map_m fun r => tear_down_router_steady ctx.elevated port host agent r).bind
        fun _ => .pure _

theorem remove_host_steady (agent router : String) : Steady (removeHost agent router) := by
  refine (Steady.commit _).bind fun existed =>
    .ite ((Steady.ask (Directory.agent_steady agent)).bind fun found => ?_) (.pure ())
  cases found with
  | none => exact .pure ()
  | some a => exact .notify _

/-- A release asks the directory one question. -/
theorem release_snat_node_steady (router : String) (scope : Option String) :
    Steady (releaseSnatNode ctx router scope) := by
  intro c x c' h
  have hstore : c.restored.store = c.store := rfl
  rw [run_on_release_snat_node_eq] at h ⊢
  rw [hstore]
  rcases hrow : c.store.snatScoped? router scope with e | _ | b <;> rw [hrow] at h
  · cases h
  · cases h
    rfl
  · simp only at h ⊢
    rcases hneeds : c.directory.needsRouter ctx b.host router none with e | needed
    · rw [hneeds] at h
      cases h
    · have hrestored : c.restored.directory.needsRouter ctx b.host router none = .ok needed :=
        Directory.needs_router_steady ctx _ _ _ c.directory needed hneeds
      rw [hneeds] at h
      rw [hrestored]
      cases needed <;> cases h <;> rfl

theorem unschedule_steady (router : String) (agents : List String) :
    Steady (unschedule ctx router agents) := by
  refine (Steady.known_router router).bind fun r => .ite (.commit _) ?_
  refine (release_snat_node_steady ctx router none).bind fun release => ?_
  rcases release with _ | ⟨b, host | host⟩
  · exact .pure ()
  · exact .pure ()
  · exact .notify _

theorem remove_router_steady (agent router : String) :
    Steady (removeRouter ctx agent router) := by
  refine (Steady.known_router router).bind fun r => .ite ?_ (remove_host_steady agent router)
  refine (release_snat_node_steady ctx router (some agent)).bind fun release => ?_
  rcases release with _ | ⟨b, host | host⟩
  · exact remove_host_steady agent router
  · exact .notify _
  · exact .notify _

theorem bind_chosen_steady (router : Router) (agent : Agent) :
    Steady (bindChosen router agent) := by
  intro c outcome c' h
  replace h : bindChosen router agent c = (.ok outcome, c') := h
  show bindChosen router agent c.restored = _
  have hsame : c.restored.store = c.store := rfl
  unfold bindChosen at h ⊢
  rw [hsame]
  generalize c.store.commit (Transaction.bindSnat router agent) = committed at h ⊢
  rcases committed with ⟨e | u, s⟩
  · simp only at h ⊢
    split at h
    next hduplicate =>
      cases h
      rw [if_pos hduplicate]
    next => cases h
  · cases h
    rfl

theorem schedule_snat_steady (router : Router) : Steady (scheduleSnat router) := by
  unfold scheduleSnat
  refine .ite (.pure _) ((Steady.ask Directory.active_agents_steady).bind fun active =>
    .ite (.pure _) (Steady.bind (fun c x c' h => ?_) fun chosen => ?_))
  · cases h
    rfl
  · cases chosen with
    | none => exact .pure _
    | some agent => exact bind_chosen_steady router agent

theorem reconcile_steady (router : String) : Steady (reconcile ctx router) := by
  refine (Steady.known_router router).bind fun r =>
    .ite (Steady.bind (.consult _) fun row => ?_) (.pure ())
  cases r.hasGateway <;> cases row
  · exact .pure ()
  · refine (release_snat_node_steady ctx router none).bind fun release => ?_
    rcases release with _ | ⟨b, host | host⟩
    · exact .pure ()
    · exact .notify _
    · exact .notify _
  · refine (schedule_snat_steady r).bind fun outcome => ?_
    cases outcome with
    | bound agent => exact .notify _
    | noGateway => exact .pure ()
    | noActiveAgents => exact .pure ()
    | noCandidates => exact .pure ()
    | alreadyBound => exact .pure ()
  · exact .pure ()

/-! ## Port events -/

theorem refresh_arp_steady (port : Port) (action : ArpAction) :
    Steady (refreshArp port action) :=
  .ite (.notify _) (.pure ())

theorem port_deleted_steady (port : Port) (removals : List Removal) :
    Steady (portDeleted ctx port removals) :=
  (refresh_arp_steady port .del).bind fun _ =>
    .for_m fun r => remove_router_steady ctx.elevated r.agent r.router

theorem departed_steady (original : Port) : Steady (departed ctx original) :=
  (tear_down_steady ctx original.id original.host).bind fun removals =>
    .ite (port_deleted_steady ctx original removals) (.pure ())

theorem arrived_steady (original port : Port) : Steady (arrived ctx original port) :=
  .ite ((bring_routers_steady ctx port).bind fun _ => refresh_arp_steady port .add)
    (.ite (refresh_arp_steady port .add) (.pure ()))

theorem follow_steady (event : PortEvent) : Steady (follow ctx event) := by
  cases event with
  | created port =>
      exact .ite ((bring_routers_steady ctx port).bind fun _ => refresh_arp_steady port .add)
        (.pure ())
  | updated original port =>
      exact .ite ((departed_steady ctx original).bind fun _ =>
        .ite (arrived_steady ctx original port) (.pure ())) (arrived_steady ctx original port)
  | deleted port removals => exact port_deleted_steady ctx port removals

end Controller

namespace Exchange

/-- The same exchange with every service up. -/
def restored (x : Exchange) : Exchange := { x with controller := x.controller.restored }

/-- An event that is followed well is followed the same once every service is up. -/
theorem publish_restored {x y : Exchange} (hbus : x.Registered) {nesting : Nat} {ctx : Context}
    {event : PortEvent} (h : x.publish (nesting + 1) ctx event = some (.ok (), y)) :
    x.restored.publish (nesting + 1) ctx event = some (.ok (), y.restored) := by
  rw [publish_registered hbus] at h
  rcases hfollow : (Controller.follow ctx event).runOn x.controller with ⟨e | u, c⟩
  · rw [hfollow] at h
    cases h
  · rw [hfollow] at h
    cases h
    have hrestored : (Controller.follow ctx event).runOn x.restored.controller =
        (.ok u, c.restored) := Controller.follow_steady ctx event _ _ _ hfollow
    rw [publish_registered (x := x.restored) hbus, hrestored]
    rfl

/-- What the controller does where an event is followed well, once every service is up. -/
theorem follow_restored {x y : Exchange} (hbus : x.Registered) {nesting : Nat} {ctx : Context}
    {event : PortEvent} (h : x.publish (nesting + 1) ctx event = some (.ok (), y)) :
    (Controller.follow ctx event).runOn x.restored.controller =
      (.ok (), y.restored.controller) := by
  have hrestored := publish_restored hbus h
  rw [publish_registered (x := x.restored) hbus] at hrestored
  rcases hfollow : (Controller.follow ctx event).runOn x.restored.controller with ⟨e | u, c⟩
  · rw [hfollow] at hrestored
    cases hrestored
  · rw [hfollow] at hrestored
    exact congrArg (fun y : Exchange => (Except.ok u, y.controller))
      (congrArg Prod.snd (Option.some.inj hrestored))

end Exchange

namespace PortOperation

/-- An operation that ends well ends the same once every service is up. -/
theorem run_restored {x y : Exchange} (hbus : x.Registered) {nesting : Nat} {ctx : Context}
    {op : PortOperation} (h : op.run (nesting + 1) ctx x = some (.ok (.ok ()), y)) :
    op.run (nesting + 1) ctx x.restored = some (.ok (.ok ()), y.restored) := by
  cases op with
  | create port =>
      refine run_create_ok.2 ?_
      exact Exchange.publish_restored (x := x.changeDirectory (·.putPort port)) hbus
        (run_create_ok.1 h)
  | update original port =>
      refine run_update_ok.2 ?_
      exact Exchange.publish_restored (x := x.changeDirectory (·.putPort port)) hbus
        (run_update_ok.1 h)
  | delete port =>
      obtain ⟨removals, c, hprepare, hpublish⟩ := run_delete_ok.1 h
      have hrestored : (Controller.prepareDelete ctx port).runOn x.restored.controller =
          (.ok removals, c.restored) :=
        Controller.tear_down_steady ctx port.id port.host _ _ _ hprepare
      refine run_delete_ok.2 ⟨removals, c.restored, hrestored, ?_⟩
      exact Exchange.publish_restored
        (x := { x with controller := { c with directory := c.directory.removePort port.id } })
        hbus hpublish

end PortOperation

end RouterBinding
