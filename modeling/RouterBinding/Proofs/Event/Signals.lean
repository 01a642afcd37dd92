import RouterBinding.Proofs.Controller.Respects
import RouterBinding.Proofs.Event.Lifecycle

/-!
# The signals of port operations

Besides what they tell of routers, the notices of the controller say when the address of a port is
to be entered and when it is to be dropped: the signals about the port. Bringing and removing
routers sends none (`Hush`). `follow_tells` says which signals follow an event, and `run_signals`
which an operation on a port adds to those sent before, over stores of any content: where the
operation ends well, the signals are a matter of the directory alone.
-/

namespace RouterBinding

/-- A signal is about the port with an id. -/
abbrev Signal := String × ArpAction

def Notice.signal? : Notice → Option Signal
  | .arp port action => some (port, action)
  | _ => none

/-- Only serviced ports have neighbours that are told of their addresses. -/
def Port.signal (p : Port) (action : ArpAction) : List Signal :=
  if p.isServiced then [(p.id, action)] else []

namespace Controller

open RouterBinding.Action

/-- The signals sent, in order. -/
def signals (c : Controller) : List Signal := c.sent.filterMap Notice.signal?

/-! ## Requests without signals -/

/-- The directory and the signals of two controllers are the same. -/
structure Hush (c c' : Controller) : Prop where
  directory : c'.directory = c.directory
  signals : c'.signals = c.signals

instance : Std.Refl Hush := ⟨fun _ => ⟨rfl, rfl⟩⟩

instance : IsTrans Controller Hush :=
  ⟨fun _ _ _ h h' => ⟨h'.directory.trans h.directory, h'.signals.trans h.signals⟩⟩

theorem commit_hush {α : Type} (t : Transaction ControllerError α) : Respects Hush (commit t) :=
  fun _ => ⟨rfl, rfl⟩

theorem notify_hush {n : Notice} (h : n.signal? = none) : Respects Hush (notify n) := by
  refine fun c => ⟨rfl, ?_⟩
  simp [signals, h]

theorem bring_routers_hush (ctx : Context) (port : Port) : Respects Hush (bringRouters ctx port) :=
  .bring_routers (fun _ _ => .place (fun _ => commit_hush _) _) (fun _ _ => notify_hush rfl) ctx
    port

theorem remove_router_hush (ctx : Context) (agent router : String) :
    Respects Hush (removeRouter ctx agent router) := by
  have hrelease : Respects Hush (releaseSnatNode ctx router (some agent)) :=
    .bind .get fun _ => commit_hush _
  refine .remove_router hrelease (.remove_host (commit_hush _) fun _ => notify_hush rfl)
    fun node => ?_
  cases node <;> exact notify_hush rfl

/-! ## What a request signals -/

/-- Where a request answers it has sent some signals, and changed links at most. -/
def Tells {α : Type} (a : Action α) (c : Controller) (ss : List Signal) : Prop :=
  ∀ x c', a.runOn c = (.ok x, c') →
    c.directory.Relinks c'.directory ∧ c'.signals = c.signals ++ ss

namespace Tells

variable {α β : Type} {a : Action α} {f : α → Action β} {c : Controller} {ss ss' : List Signal}

theorem of_hush (ha : Respects Hush a) : Tells a c [] := by
  intro x c' hrun
  have hsame := ha c
  rw [hrun] at hsame
  exact ⟨hsame.directory ▸ .refl _, by rw [hsame.signals, List.append_nil]⟩

theorem bind (ha : Tells a c ss) (hf : ∀ x c', Tells (f x) c' ss') :
    Tells (a >>= f) c (ss ++ ss') := by
  intro y c'' hrun
  rw [run_on_bind] at hrun
  rcases hfirst : a.runOn c with ⟨e | x, c'⟩
  · rw [hfirst] at hrun
    cases hrun
  · rw [hfirst] at hrun
    obtain ⟨hlinks, hsignals⟩ := ha x c' hfirst
    obtain ⟨hlinks', hsignals'⟩ := hf x c' y c'' hrun
    exact ⟨hlinks.trans hlinks', by rw [hsignals', hsignals, List.append_assoc]⟩

/-- A request that answers and changes links only says nothing itself. -/
theorem bind_answers {x : α} (ha : Answers a c x)
    (hf : ∀ d, c.directory.Relinks d → Tells (f x) { c with directory := d } ss) :
    Tells (a >>= f) c ss := by
  obtain ⟨d, hfirst, hlinks⟩ := ha
  intro y c' hrun
  rw [run_on_bind, hfirst] at hrun
  obtain ⟨hlinks', hsignals⟩ := hf d hlinks y c' hrun
  exact ⟨hlinks.trans hlinks', hsignals⟩

end Tells

variable {c : Controller}

theorem refresh_arp_tells (port : Port) (action : ArpAction) :
    Tells (refreshArp port action) c (port.signal action) := by
  intro x c' hrun
  unfold refreshArp at hrun
  unfold Port.signal
  split at hrun
  next hserviced =>
    cases hrun
    exact ⟨.refl _, by simp [signals, hserviced, Notice.signal?]⟩
  next hserviced =>
    cases hrun
    exact ⟨.refl _, by simp [hserviced]⟩

theorem port_created_tells (ctx : Context) (port : Port) :
    Tells (portCreated ctx port) c (port.signal .add) := by
  unfold portCreated
  split
  · exact (Tells.of_hush (bring_routers_hush ctx port)).bind fun _ _ => refresh_arp_tells port .add
  next hserviced =>
    rw [Port.signal, if_neg hserviced]
    exact .of_hush (.pure ())

theorem port_deleted_tells (ctx : Context) (port : Port) (rs : List Removal) :
    Tells (portDeleted ctx port rs) c (port.signal .del) := by
  rw [← List.append_nil (port.signal .del)]
  refine (refresh_arp_tells port .del).bind fun _ _ => .of_hush ?_
  exact .for_m fun q => remove_router_hush ctx.elevated q.agent q.router

/-- A port that leaves its host is signalled only if a router goes with it. -/
theorem departed_tells (hd : c.directory.Serving) (ctx : Context) (original : Port) :
    Tells (departed ctx original) c
      (if (c.directory.leaving ctx.elevated original.id original.host).isEmpty then []
        else original.signal .del) := by
  refine .bind_answers (tear_down_serving hd ctx original.id original.host) fun d _ => ?_
  cases (c.directory.leaving ctx.elevated original.id original.host).isEmpty with
  | true => exact .of_hush (.pure ())
  | false => exact port_deleted_tells ctx original _

theorem arrived_tells (ctx : Context) (original port : Port) :
    Tells (arrived ctx original port) c
      (if arrives original port || original.mac ≠ port.mac then port.signal .add else []) := by
  unfold arrived
  cases hserviced : port.isServiced with
  | false =>
      -- nobody is told of the address of a port that is not serviced
      have hnone : port.signal .add = [] := by simp [Port.signal, hserviced]
      have hrefresh : Respects Hush (refreshArp port .add) := by
        rw [refreshArp, hserviced]
        exact .pure ()
      rw [hnone, ite_self]
      simp only [Bool.and_false, Bool.false_eq_true, if_false]
      exact .of_hush (.ite hrefresh (.pure ()))
  | true =>
      cases arrives original port with
      | true =>
          exact (Tells.of_hush (bring_routers_hush ctx port)).bind fun _ _ =>
            refresh_arp_tells port .add
      | false =>
          simp only [Bool.false_and, Bool.false_eq_true, if_false, Bool.false_or,
            decide_eq_true_eq]
          split
          · exact refresh_arp_tells port .add
          · exact .of_hush (.pure ())

theorem port_updated_tells (hd : c.directory.Serving) (ctx : Context) (original port : Port) :
    Tells (portUpdated ctx original port) c
      ((if (c.directory.departing ctx original port).isEmpty then [] else original.signal .del) ++
        if arrives original port || original.mac ≠ port.mac then port.signal .add else []) := by
  unfold portUpdated Directory.departing
  split
  next =>
    refine (departed_tells hd ctx original).bind fun _ _ => ?_
    cases hserviced : port.isServiced with
    | true => exact arrived_tells ctx original port
    | false =>
        have hnone : port.signal .add = [] := by simp [Port.signal, hserviced]
        rw [hnone, ite_self]
        exact .of_hush (.pure ())
  next => exact arrived_tells ctx original port

end Controller

/-- The signals that follow an event. -/
def Directory.signals (d : Directory) (ctx : Context) : PortEvent → List Signal
  | .created port => port.signal .add
  | .updated original port =>
    (if (d.departing ctx original port).isEmpty then [] else original.signal .del) ++
      if Controller.arrives original port || original.mac ≠ port.mac then port.signal .add else []
  | .deleted port _ => port.signal .del

theorem Controller.follow_tells {c : Controller} (hd : c.directory.Serving) (ctx : Context)
    (event : PortEvent) : Tells (follow ctx event) c (c.directory.signals ctx event) := by
  cases event with
  | created port => exact port_created_tells ctx port
  | updated original port => exact port_updated_tells hd ctx original port
  | deleted port removals => exact port_deleted_tells ctx port removals

namespace Exchange

/-- Publishing an event that is followed well sends the signals of the event. -/
theorem publish_signals {x y : Exchange} (hbus : x.Registered)
    (hd : x.controller.directory.Serving) {nesting : Nat} {ctx : Context} {event : PortEvent}
    (hrun : x.publish (nesting + 1) ctx event = some (.ok (), y)) :
    y.Registered ∧ x.controller.directory.Relinks y.controller.directory ∧
      y.controller.signals = x.controller.signals ++ x.controller.directory.signals ctx event := by
  rw [publish_registered hbus] at hrun
  rcases hfollow : (Controller.follow ctx event).runOn x.controller with ⟨e | u, c⟩
  · rw [hfollow] at hrun
    cases hrun
  · rw [hfollow] at hrun
    cases hrun
    exact ⟨hbus, Controller.follow_tells hd ctx event u c hfollow⟩

end Exchange

namespace PortOperation

/-- An operation that ends well adds the signals of its event to those before it. -/
theorem run_signals {x y : Exchange} (hbus : x.Registered)
    (hd : x.controller.directory.Serving) {nesting : Nat} {ctx : Context} {op : PortOperation}
    (hrun : op.run (nesting + 1) ctx x = some (.ok (.ok ()), y)) :
    y.Registered ∧ (op.directory x.controller.directory).Relinks y.controller.directory ∧
      y.controller.signals = x.controller.signals ++
        (op.directory x.controller.directory).signals ctx
          (op.event x.controller.directory ctx) := by
  cases op with
  | create port =>
      exact Exchange.publish_signals (x := x.changeDirectory (·.putPort port)) hbus
        (hd.put_port port) (run_create_ok.1 hrun)
  | update original port =>
      exact Exchange.publish_signals (x := x.changeDirectory (·.putPort port)) hbus
        (hd.put_port port) (run_update_ok.1 hrun)
  | delete port =>
      obtain ⟨removals, c, hprepare, hpublish⟩ := run_delete_ok.1 hrun
      obtain ⟨d, htorn, hlinks⟩ := Controller.tear_down_serving hd ctx port.id port.host
      cases htorn.symm.trans hprepare
      have hlinks := directory_relinks hlinks (.delete port)
      obtain ⟨hbus', hrelinks, hsignals⟩ := Exchange.publish_signals
        (x := { x with controller := { x.controller with directory := d.removePort port.id } })
        hbus ((hd.remove_port port.id).relinks hlinks) hpublish
      exact ⟨hbus', hlinks.trans hrelinks, hsignals⟩

end PortOperation

end RouterBinding
