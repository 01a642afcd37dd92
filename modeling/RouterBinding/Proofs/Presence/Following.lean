import RouterBinding.Proofs.Event.Run
import RouterBinding.Proofs.Presence.Admissible

/-!
# Host bindings follow ports

While a fabric stays as it is and administrators have other ports come, change and go by admissible
operations, the controller keeps exactly the host bindings that serviced ports want, and no
operation fails (`host_bindings_follow_ports`). One operation keeps that up by `Follows.run`.
-/

namespace RouterBinding

namespace Exchange

/-- The host bindings of an exchange are those that serviced ports want. -/
structure Follows (x : Exchange) : Prop where
  registered : x.Registered
  fabric : x.controller.directory.Fabric
  sound : x.controller.store.Sound
  bound : ∀ router agent, x.controller.store.isBound router agent ↔
    x.controller.directory.Present router agent

/-- An admissible operation by an administrator succeeds, and the bindings follow. -/
theorem Follows.run {x : Exchange} (hx : x.Follows) {ctx : Context} (hadmin : ctx.admin = true)
    {op : PortOperation} (hop : op.Admissible x.controller.directory) (nesting : Nat) :
    ∃ y, op.run (nesting + 1) ctx x = some (.ok (.ok ()), y) ∧ y.Follows := by
  have hd := hx.fabric
  obtain ⟨y, hrun, hbus, hlinks, hstore⟩ :=
    PortOperation.run_serving hx.registered hd.toServing hx.sound nesting ctx op
  have hremoved : (op.directory x.controller.directory).removed
      (op.due x.controller.directory ctx) = .ok () := by
    refine Directory.removed_eq_ok_iff.2 fun q hq => ?_
    obtain ⟨r, hr, -⟩ := hop.due_known hd hq
    exact Directory.knows_of_found hr
  have houtcome : PortOperation.outcome (op.directory x.controller.directory) ctx
      (op.event x.controller.directory ctx) = .ok () := by
    show ((op.directory x.controller.directory).removed
      (op.due x.controller.directory ctx)).mapError _ = _
    rw [hremoved]
    rfl
  refine ⟨y, by rw [hrun, houtcome], hbus, (hop.fabric hd).relinks hlinks, ?_, fun r a => ?_⟩
  · rw [hstore]
    exact hx.sound.followed _ _ _
  · rw [hstore, Store.is_bound_followed fun q hq => hop.due_known hd hq, hx.bound,
      Directory.present_relinks hlinks]
    exact (hop.present_step hd hadmin).symm

/-- The exchanges that administrators lead to by admissible operations, from an empty store and a
fabric without serviced ports. -/
inductive Lives : Exchange → Prop where
  | start {x : Exchange} (hbus : x.Registered) (hstore : x.controller.store = ∅)
      (hfabric : x.controller.directory.Fabric)
      (hunserviced : ∀ p ∈ x.controller.directory.ports.values, p.isServiced = false) : Lives x
  | step {x y : Exchange} {op : PortOperation} {nesting : Nat} {ctx : Context}
      {answer : Except ControllerError (Except DispatchError Unit)} (hx : Lives x)
      (hadmin : ctx.admin = true) (hop : op.Admissible x.controller.directory)
      (hrun : op.run (nesting + 1) ctx x = some (answer, y)) : Lives y

theorem Lives.follows {x : Exchange} (hx : x.Lives) : x.Follows := by
  induction hx with
  | @start x hbus hstore hfabric hunserviced =>
      refine ⟨hbus, hfabric, hstore ▸ .empty, fun router agent => ?_⟩
      rw [hstore, Store.is_bound_empty]
      -- nothing is bound, and without serviced ports nothing is wanted
      constructor
      · intro h
        cases h
      · rintro ⟨_, _, _, p, hp, hwants⟩
        have hserviced := hwants.serviced
        rw [hunserviced p hp] at hserviced
        exact hserviced
  | @step x y op nesting ctx answer hx hadmin hop hrun ih =>
      obtain ⟨y', hrun', hfollows⟩ := ih.run hadmin hop nesting
      rw [hrun] at hrun'
      cases hrun'
      exact hfollows

/-- As long as administrators make admissible operations only, every operation succeeds, and the
host bindings are exactly those of routers and agents where a serviced port on the host of the
agent has an address on a subnet of the router. -/
theorem host_bindings_follow_ports {x : Exchange} (hx : x.Lives) :
    (∃ bs, x.controller.store.hostBindings = .ok bs ∧
      ∀ b, b ∈ bs ↔ x.controller.directory.Present b.router b.agent) ∧
      ∀ (nesting : Nat) (ctx : Context) (op : PortOperation), ctx.admin = true →
        op.Admissible x.controller.directory →
        ∃ y, op.run (nesting + 1) ctx x = some (.ok (.ok ()), y) ∧ y.Lives := by
  have hfollows := hx.follows
  constructor
  · obtain ⟨bs, hbs, hmem⟩ := hfollows.sound.host_bindings
    exact ⟨bs, hbs, fun b => by rw [hmem, hfollows.bound]⟩
  · intro nesting ctx op hadmin hop
    obtain ⟨y, hrun, -⟩ := hfollows.run hadmin hop nesting
    exact ⟨y, hrun, .step hx hadmin hop hrun⟩

end Exchange

namespace SoleHost

/-- The router without its gateway. -/
def plain : Router := { router with gateway := none }

def plainDirectory : Directory :=
  (((∅ : Directory).putAgent agent).putRouter plain).putPort interface

def idle : Exchange := ⟨⟨plainDirectory, ∅, .ofSeed 0, []⟩, Bus.registerRouter {}, []⟩

theorem plain_directory_fabric : plainDirectory.Fabric := by
  have hserving : plainDirectory.Serving :=
    ((Directory.Serving.empty.put_agent agent).put_router plain).put_port interface
  have hagents : plainDirectory.agents.values = [agent] := rfl
  have hports : plainDirectory.ports.values = [interface] := rfl
  refine ⟨hserving, ?_, ?_, ?_, ?_⟩
  · simp [hagents]
  · simp only [hagents, List.mem_singleton, forall_eq]
    rfl
  · simp only [hports, List.mem_singleton, forall_eq]
    exact fun _ => ⟨plain, by decide +kernel, rfl⟩
  · simp only [hports, List.mem_singleton, forall_eq]
    exact fun _ => ⟨rfl, _, rfl⟩

theorem idle_lives : idle.Lives := by
  have hports : plainDirectory.ports.values = [interface] := rfl
  refine .start rfl rfl plain_directory_fabric fun p hp => ?_
  rw [show idle.controller.directory.ports.values = [interface] from hports] at hp
  rw [List.mem_singleton.1 hp]
  decide +kernel

end SoleHost

namespace Exchange

open SoleHost in
/-- An administrator creates the serviced port. -/
theorem host_bindings_follow_ports_sole_host :
    ∃ x, (PortOperation.create port).run 64 .administrator idle = some (.ok (.ok ()), x) ∧
      x.Lives ∧
      (∃ bs, x.controller.store.hostBindings = .ok bs ∧
        ∀ b, b ∈ bs ↔ x.controller.directory.Present b.router b.agent) ∧
      ∀ (nesting : Nat) (ctx : Context) (op : PortOperation), ctx.admin = true →
        op.Admissible x.controller.directory →
        ∃ y, op.run (nesting + 1) ctx x = some (.ok (.ok ()), y) ∧ y.Lives := by
  have hfree : plainDirectory.Free port := ⟨by decide +kernel, by decide +kernel⟩
  have hop : (PortOperation.create port).Admissible plainDirectory :=
    .create (by decide +kernel) hfree
  have hadmin : Context.administrator.admin = true := rfl
  obtain ⟨x, hrun, -⟩ := idle_lives.follows.run hadmin hop 63
  have hlives : x.Lives := .step idle_lives hadmin hop hrun
  exact ⟨x, hrun, hlives, host_bindings_follow_ports hlives⟩

end Exchange

end RouterBinding
