import RouterBinding.Proofs.Event.Reactions

/-!
# The life of a port, while the directory serves

A `PortOperation` creates, updates or deletes a port with all that follows. While the directory
serves, `run_serving` gives its outcome, its directory and its store in closed form, and `mem_due`
says which removals it makes due: those of the routers that the port abandons on the host it leaves.
-/

namespace RouterBinding

namespace Directory

/-- A port attaches to a router that no other port needs on a host, whoever owns them. -/
structure Abandons (d : Directory) (port host router : String) : Prop where
  attached : router ∈ d.attached .administrator (d.addresses .administrator port)
  free : d.needs .administrator host router (some port) = false

variable {d : Directory} {ctx : Context} {port : String} {host : Option String}

/-- A removal is due for each router that a port abandons on a host with an agent. -/
theorem mem_leaving {q : Removal} :
    q ∈ d.leaving ctx.elevated port host ↔ ∃ left agent, d.left? port host = some left ∧
      d.agentOn? left = some agent ∧ d.Abandons port left q.router ∧
      q = ⟨q.router, left, agent.id⟩ := by
  unfold leaving
  cases d.left? port host with
  | none => simp
  | some left =>
      simp only [List.mem_filterMap, Option.some.injEq, exists_and_left, exists_eq_left']
      constructor
      · rintro ⟨router, hattached, hremoval⟩
        unfold removal? at hremoval
        split at hremoval
        next => cases hremoval
        next hneeds =>
          obtain ⟨agent, hagent, rfl⟩ := Option.map_eq_some_iff.1 hremoval
          exact ⟨agent, hagent, ⟨hattached, Bool.eq_false_iff.2 hneeds⟩, rfl⟩
      · rintro ⟨agent, hagent, ⟨hattached, hneeds⟩, hq⟩
        refine ⟨q.router, hattached, ?_⟩
        have hneeds : d.needs ctx.elevated left q.router (some port) = false := hneeds
        rw [removal?, hneeds, hagent, hq]
        rfl

theorem pairwise_leaving :
    (d.leaving ctx port host).Pairwise fun q q' => compare q.router q'.router = .lt := by
  unfold leaving
  cases d.left? port host with
  | none => exact .nil
  | some left =>
      refine (pairwise_distinct _).filterMap _ fun r r' hlt q hq q' hq' => ?_
      have hrouter : ∀ r q, d.removal? ctx port left r = some q → q.router = r := by
        intro r q hq
        unfold removal? at hq
        split at hq
        · cases hq
        · obtain ⟨agent, -, rfl⟩ := Option.map_eq_some_iff.1 hq
          rfl
      rwa [hrouter r q hq, hrouter r' q' hq']

end Directory

/-- An operation on a port, with the event that it publishes. -/
inductive PortOperation where
  | create (port : Port)
  /-- Replaces the port `original`. -/
  | update (original port : Port)
  | delete (port : Port)

namespace PortOperation

/-- Runs an operation. It fails where the deletion of a port cannot be prepared; otherwise it gives
the outcome of the event. -/
def run (nesting : Nat) (ctx : Context) :
    PortOperation → Exchange → Outcome (Except ControllerError (Except DispatchError Unit))
  | create port, x =>
    (x.createPort nesting ctx port).map fun (outcome, x) => (.ok outcome, x)
  | update original port, x =>
    (x.updatePort nesting ctx original port).map fun (outcome, x) => (.ok outcome, x)
  | delete port, x =>
    (x.deletePort nesting ctx port).map fun (answer, x) => (answer.map Prod.snd, x)

section Ended

variable {nesting : Nat} {ctx : Context} {x y : Exchange}

theorem run_create_ok {port : Port} :
    (create port).run nesting ctx x = some (.ok (.ok ()), y) ↔
      x.createPort nesting ctx port = some (.ok (), y) := by
  rw [run, Option.map_eq_some_iff]
  constructor
  · rintro ⟨⟨outcome, x'⟩, hpublish, heq⟩
    cases heq
    exact hpublish
  · exact fun hpublish => ⟨_, hpublish, rfl⟩

theorem run_update_ok {original port : Port} :
    (update original port).run nesting ctx x = some (.ok (.ok ()), y) ↔
      x.updatePort nesting ctx original port = some (.ok (), y) := by
  rw [run, Option.map_eq_some_iff]
  constructor
  · rintro ⟨⟨outcome, x'⟩, hpublish, heq⟩
    cases heq
    exact hpublish
  · exact fun hpublish => ⟨_, hpublish, rfl⟩

/-- A deletion ends well if it is prepared and the event that carries the removals ends well. -/
theorem run_delete_ok {port : Port} :
    (delete port).run nesting ctx x = some (.ok (.ok ()), y) ↔
      ∃ removals c, (Controller.prepareDelete ctx port).runOn x.controller = (.ok removals, c) ∧
        { x with controller := { c with directory := c.directory.removePort port.id } }.publish
          nesting ctx (.deleted port removals) = some (.ok (), y) := by
  rw [run, Exchange.deletePort, Exchange.request]
  rcases (Controller.prepareDelete ctx port).runOn x.controller with ⟨e | removals, c⟩
  · simp [Except.map]
  · simp only [Option.map_map, Option.map_eq_some_iff]
    constructor
    · rintro ⟨⟨outcome, x'⟩, hpublish, heq⟩
      cases heq
      exact ⟨removals, c, rfl, hpublish⟩
    · rintro ⟨_, _, ⟨⟩, hpublish⟩
      exact ⟨_, hpublish, rfl⟩

end Ended

/-- The directory once its ports are changed. -/
def directory (d : Directory) : PortOperation → Directory
  | create port => d.putPort port
  | update _ port => d.putPort port
  | delete port => d.removePort port.id

theorem directory_agents (d : Directory) (op : PortOperation) :
    (op.directory d).agents = d.agents := by
  cases op <;> rfl

theorem directory_routers (d : Directory) (op : PortOperation) :
    (op.directory d).routers = d.routers := by
  cases op <;> rfl

/-- The event of an operation; that of a deletion carries the removals due. -/
def event (d : Directory) (ctx : Context) : PortOperation → PortEvent
  | create port => .created port
  | update original port => .updated original port
  | delete port => .deleted port (d.leaving ctx.elevated port.id port.host)

theorem directory_serving {d : Directory} (hd : d.Serving) (op : PortOperation) :
    (op.directory d).Serving := by
  cases op with
  | create port => exact hd.put_port port
  | update original port => exact hd.put_port port
  | delete port => exact hd.remove_port port.id

theorem directory_relinks {d d' : Directory} (h : d.Relinks d') (op : PortOperation) :
    (op.directory d).Relinks (op.directory d') := by
  obtain ⟨ls, rfl⟩ := h
  refine ⟨ls, ?_⟩
  induction ls generalizing d with
  | nil => rfl
  | cons l ls ih =>
      rw [List.foldl_cons, List.foldl_cons, ih]
      cases op <;> rfl

/-- The outcome of an event in words of its subscription. -/
def outcome (d : Directory) (ctx : Context) (event : PortEvent) : Except DispatchError Unit :=
  (d.followed ctx event).mapError fun e => ⟨Exchange.follower event.kind, event.kind, e⟩

/-- Publishing an event that the controller follows. -/
theorem publish_serving {x : Exchange} (hbus : x.Registered)
    (hd : x.controller.directory.Serving) (hs : x.controller.store.Sound) (nesting : Nat)
    (ctx : Context) (event : PortEvent) :
    ∃ y, x.publish (nesting + 1) ctx event =
        some (outcome x.controller.directory ctx event, y) ∧ y.Registered ∧
      x.controller.directory.Relinks y.controller.directory ∧
      y.controller.store = x.controller.store.followed x.controller.directory ctx event := by
  obtain ⟨d, sent, hrun, hlinks⟩ := Controller.follow_serving hd hs ctx event
  rw [Exchange.publish_registered hbus, hrun]
  exact ⟨_, rfl, hbus, hlinks, rfl⟩

/-- An operation has the outcome of its event, and the store is the one that follows the event. -/
theorem run_serving {x : Exchange} (hbus : x.Registered) (hd : x.controller.directory.Serving)
    (hs : x.controller.store.Sound) (nesting : Nat) (ctx : Context) (op : PortOperation) :
    ∃ y, op.run (nesting + 1) ctx x =
        some (.ok (outcome (op.directory x.controller.directory) ctx
          (op.event x.controller.directory ctx)), y) ∧ y.Registered ∧
      (op.directory x.controller.directory).Relinks y.controller.directory ∧
      y.controller.store = x.controller.store.followed (op.directory x.controller.directory) ctx
        (op.event x.controller.directory ctx) := by
  cases op with
  | create port =>
      obtain ⟨y, hrun, hrest⟩ := publish_serving
        (x := x.changeDirectory (·.putPort port)) hbus (hd.put_port port) hs nesting ctx
        (.created port)
      refine ⟨y, ?_, hrest⟩
      rw [run, Exchange.createPort, hrun]
      rfl
  | update original port =>
      obtain ⟨y, hrun, hrest⟩ := publish_serving
        (x := x.changeDirectory (·.putPort port)) hbus (hd.put_port port) hs nesting ctx
        (.updated original port)
      refine ⟨y, ?_, hrest⟩
      rw [run, Exchange.updatePort, hrun]
      rfl
  | delete port =>
      obtain ⟨d, hprepare, hlinks⟩ := Controller.tear_down_serving hd ctx port.id port.host
      have hrequest : x.request (Controller.prepareDelete ctx port) =
          (.ok (x.controller.directory.leaving ctx.elevated port.id port.host),
            { x with controller := { x.controller with directory := d } }) := by
        rw [Exchange.request, Controller.prepareDelete, hprepare]
      -- preparing may relink the directory, which changes neither what is due nor what follows
      have hlinks := directory_relinks hlinks (.delete port)
      obtain ⟨y, hrun, hbus', hrelinks, hstore⟩ := publish_serving
        (x := { x with controller := { x.controller with directory := d.removePort port.id } })
        hbus ((hd.remove_port port.id).relinks hlinks) hs nesting ctx
        (.deleted port (x.controller.directory.leaving ctx.elevated port.id port.host))
      refine ⟨y, ?_, hbus', hlinks.trans hrelinks, hstore.trans ?_⟩
      · rw [run, Exchange.deletePort, hrequest]
        simp only [Exchange.changeDirectory]
        rw [hrun]
        simp only [Option.map_some, Except.map]
        exact congrArg (fun o => some (Except.ok o, y))
          (hlinks.same (outcome · ctx (.deleted port _)) fun _ _ => rfl)
      · exact hlinks.same (x.controller.store.followed · ctx (.deleted port _)) fun _ _ => rfl

/-! ## The removals that an operation makes due -/

/-- The directory in which an operation looks for the routers to remove: a port is deleted after
that, and updated before. -/
def searched (d : Directory) : PortOperation → Directory
  | create port => d.putPort port
  | update _ port => d.putPort port
  | delete _ => d

/-- The port that leaves a host by an operation, and the host. -/
def departure? (d : Directory) : PortOperation → Option (String × String)
  | create _ => none
  | update original port =>
    if original.isServiced && !port.isServiced || Controller.leaves original port then
      ((d.putPort port).left? original.id original.host).map (original.id, ·)
    else none
  | delete port => (d.left? port.id port.host).map (port.id, ·)

/-- The removals that an operation makes due. -/
def due (d : Directory) (ctx : Context) (op : PortOperation) : List Removal :=
  (op.directory d).due ctx (op.event d ctx)

variable {d : Directory} {ctx : Context} {op : PortOperation}

theorem mem_due {q : Removal} :
    q ∈ op.due d ctx ↔ ∃ port host agent, op.departure? d = some (port, host) ∧
      (op.searched d).agentOn? host = some agent ∧
      (op.searched d).Abandons port host q.router ∧ q = ⟨q.router, host, agent.id⟩ := by
  have hpair : ∀ (d : Directory) (id : String) (from? : Option String),
      q ∈ d.leaving ctx.elevated id from? ↔ ∃ port host agent,
        (d.left? id from?).map (id, ·) = some (port, host) ∧ d.agentOn? host = some agent ∧
        d.Abandons port host q.router ∧ q = ⟨q.router, host, agent.id⟩ := by
    intro d id from?
    rw [Directory.mem_leaving]
    constructor
    · rintro ⟨host, agent, hleft, hrest⟩
      exact ⟨id, host, agent, by rw [hleft]; rfl, hrest⟩
    · rintro ⟨port, host, agent, hleft, hrest⟩
      obtain ⟨_, hleft, heq⟩ := Option.map_eq_some_iff.1 hleft
      cases heq
      exact ⟨host, agent, hleft, hrest⟩
  cases op with
  | create port => simp [due, event, Directory.due, departure?]
  | update original port =>
      show q ∈ (d.putPort port).departing ctx original port ↔ _
      simp only [Directory.departing, departure?]
      by_cases hleaves : original.isServiced && !port.isServiced ||
          Controller.leaves original port
      · rw [if_pos hleaves, if_pos hleaves]
        exact hpair (d.putPort port) original.id original.host
      · rw [if_neg hleaves, if_neg hleaves]
        simp
  | delete port => exact hpair d port.id port.host

theorem pairwise_due :
    (op.due d ctx).Pairwise fun q q' => compare q.router q'.router = .lt := by
  cases op with
  | create port => exact .nil
  | update original port =>
      show ((d.putPort port).departing ctx original port).Pairwise _
      unfold Directory.departing
      split
      · exact Directory.pairwise_leaving
      · exact .nil
  | delete port => exact Directory.pairwise_leaving

end PortOperation

end RouterBinding
