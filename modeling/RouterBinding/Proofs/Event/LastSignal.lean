import Mathlib.Logic.Basic
import RouterBinding.Proofs.Event.Outage
import RouterBinding.Proofs.Event.Signals
import RouterBinding.Proofs.Presence.Admissible
import RouterBinding.Proofs.Presence.Following

/-!
# The last signal about a port

The neighbours of a port know of it what the last signal about it said. `Signals` says which signal
an operation ends with; an operation without one leaves the neighbours as they were, whether or not
its port turned from serviced to not serviced or back. `last_signal_fits_iff` says of every history
of operations about which ports the neighbours are told right: the last signal fits a port as it is
unless they are `Misled`.
-/

namespace RouterBinding

/-- The last of some signals about a port. -/
def lastSignal? (ss : List Signal) (id : String) : Option ArpAction :=
  (ss.reverse.find? fun s => s.1 = id).map Prod.snd

@[simp] theorem last_signal_nil (id : String) : lastSignal? [] id = none := rfl

theorem last_signal_append (ss ss' : List Signal) (id : String) :
    lastSignal? (ss ++ ss') id = (lastSignal? ss' id).or (lastSignal? ss id) := by
  unfold lastSignal?
  rw [List.reverse_append, List.find?_append, Option.map_or]

theorem last_signal_of_port (p : Port) (action : ArpAction) (id : String) :
    lastSignal? (p.signal action) id = if p.isServiced ∧ p.id = id then some action else none := by
  unfold lastSignal? Port.signal
  by_cases hserviced : p.isServiced
  · by_cases hid : p.id = id <;> simp [hserviced, hid]
  · simp [hserviced]

/-- A port itself is signalled if it is serviced. -/
theorem last_signal_of_port_iff {p : Port} {action a : ArpAction} :
    lastSignal? (p.signal action) p.id = some a ↔ p.isServiced ∧ action = a := by
  simp [last_signal_of_port]

namespace Directory

/-- Whether a port is there and serviced. -/
def serves (d : Directory) (id : String) : Bool := (d.ports.get? id).any (·.isServiced)

/-- The signal that fits a port as it is. -/
def fitting (d : Directory) (id : String) : ArpAction := if d.serves id then .add else .del

theorem serves_put (d : Directory) (p : Port) (id : String) :
    (d.putPort p).serves id = if p.id = id then p.isServiced else d.serves id := by
  unfold serves putPort
  rw [Table.get_insert]
  by_cases hid : p.id = id <;> simp [hid]

theorem serves_remove (d : Directory) (id id' : String) :
    (d.removePort id').serves id = if id' = id then false else d.serves id := by
  unfold serves removePort
  rw [Table.get_erase]
  by_cases hid : id' = id <;> simp [hid]

theorem Relinks.fitting_eq {d d' : Directory} (h : d.Relinks d') (id : String) :
    d'.fitting id = d.fitting id := h.same (·.fitting id) fun _ _ => rfl

/-- An action fits a port that turned if it did not fit before, and one that did not if it did. -/
theorem eq_fitting_iff {d d' : Directory} {id : String} {a : ArpAction} :
    a = d'.fitting id ↔ (d'.serves id ≠ d.serves id ↔ a ≠ d.fitting id) := by
  unfold fitting
  cases d.serves id <;> cases d'.serves id <;> cases a <;> simp

end Directory

namespace PortOperation

open Directory

/-- A port is replaced under its own id. -/
def Coherent : PortOperation → Prop
  | update original port => port.id = original.id
  | _ => True

/-- An update has routers removed from the host that its port leaves. -/
def Removes (d : Directory) (original port : Port) : Prop :=
  ∃ q, q ∈ (update original port).due d .administrator

/-- A port comes to a host, or its hardware address is a new one. -/
def Freshens (original port : Port) : Prop :=
  Controller.arrives original port ∨ original.mac ≠ port.mac

instance (original port : Port) : Decidable (Freshens original port) :=
  inferInstanceAs (Decidable (_ ∨ _))

/-- The signal that an operation ends with. -/
inductive Signals (d : Directory) : PortOperation → ArpAction → Prop where
  | created {port : Port} (hserviced : port.isServiced) : Signals d (.create port) .add
  | refreshed {original port : Port} (hserviced : port.isServiced)
      (hfresh : Freshens original port) : Signals d (.update original port) .add
  | withdrawn {original port : Port} (hserviced : original.isServiced)
      (hstale : ¬(port.isServiced ∧ Freshens original port)) (hremoves : Removes d original port) :
      Signals d (.update original port) .del
  | deleted {port : Port} (hserviced : port.isServiced) : Signals d (.delete port) .del

variable {d : Directory} {op : PortOperation} {ctx : Context}

/-- Whoever makes an update, the same routers are removed. -/
theorem departing_iff {original port : Port} :
    ((d.putPort port).departing ctx original port).isEmpty = false ↔ Removes d original port :=
  List.isEmpty_eq_false_iff_exists_mem

/-- An update signals that the address is entered where the port is, or else that it is dropped
where it was. -/
theorem last_signal_updated (d : Directory) (original port : Port) (id : String) :
    lastSignal? (d.signals ctx (.updated original port)) id =
      if (port.isServiced ∧ port.id = id) ∧ Freshens original port then some .add
      else if (original.isServiced ∧ original.id = id) ∧
        (d.departing ctx original port).isEmpty = false then some .del
      else none := by
  have hfresh : (Controller.arrives original port || original.mac ≠ port.mac) = true ↔
      Freshens original port := by simp [Freshens]
  have harrival : lastSignal? (if Controller.arrives original port ||
      original.mac ≠ port.mac then port.signal .add else []) id =
      if (port.isServiced ∧ port.id = id) ∧ Freshens original port then some .add else none := by
    simp only [hfresh]
    by_cases h : Freshens original port <;> simp [h, last_signal_of_port]
  have hdeparture : lastSignal? (if (d.departing ctx original port).isEmpty then []
      else original.signal .del) id =
      if (original.isServiced ∧ original.id = id) ∧
        (d.departing ctx original port).isEmpty = false then some .del else none := by
    cases (d.departing ctx original port).isEmpty <;> simp [last_signal_of_port]
  rw [Directory.signals, last_signal_append, harrival, hdeparture]
  split
  · rfl
  · rw [Option.none_or]

/-- The last signal of an operation about its port. -/
theorem last_signal_event (hop : op.Coherent) {a : ArpAction} :
    lastSignal? ((op.directory d).signals ctx (op.event d ctx)) op.id = some a ↔
      op.Signals d a := by
  cases op with
  | create port =>
      show lastSignal? (port.signal .add) port.id = some a ↔ _
      rw [last_signal_of_port_iff]
      constructor
      · rintro ⟨hserviced, rfl⟩
        exact .created hserviced
      · intro h
        cases h with
        | created hserviced => exact ⟨hserviced, rfl⟩
  | delete port =>
      show lastSignal? (port.signal .del) port.id = some a ↔ _
      rw [last_signal_of_port_iff]
      constructor
      · rintro ⟨hserviced, rfl⟩
        exact .deleted hserviced
      · intro h
        cases h with
        | deleted hserviced => exact ⟨hserviced, rfl⟩
  | update original port =>
      show lastSignal? ((d.putPort port).signals ctx (.updated original port)) original.id = _ ↔ _
      have hid : port.id = original.id := hop
      rw [last_signal_updated]
      constructor
      · intro h
        split at h
        next hfresh =>
          cases h
          exact .refreshed hfresh.1.1 hfresh.2
        next hstale =>
          split at h
          next hleft =>
            cases h
            exact .withdrawn hleft.1.1 (fun h => hstale ⟨⟨h.1, hid⟩, h.2⟩)
              (departing_iff.1 hleft.2)
          next => cases h
      · intro h
        cases h with
        | refreshed hserviced hfresh => rw [if_pos ⟨⟨hserviced, hid⟩, hfresh⟩]
        | withdrawn hserviced hstale hremoves =>
            rw [if_neg fun h => hstale ⟨h.1.1, h.2⟩,
              if_pos ⟨⟨hserviced, rfl⟩, departing_iff.2 hremoves⟩]

/-- It says nothing of other ports. -/
theorem last_signal_event_other (hop : op.Coherent) {id : String} (hid : op.id ≠ id) :
    lastSignal? ((op.directory d).signals ctx (op.event d ctx)) id = none := by
  cases op with
  | create port =>
      show lastSignal? (port.signal .add) id = none
      rw [last_signal_of_port, if_neg fun h => hid h.2]
  | delete port =>
      show lastSignal? (port.signal .del) id = none
      rw [last_signal_of_port, if_neg fun h => hid h.2]
  | update original port =>
      show lastSignal? ((d.putPort port).signals ctx (.updated original port)) id = none
      have hsame : port.id = original.id := hop
      rw [last_signal_updated, if_neg fun h => hid (hsame.symm.trans h.1.2),
        if_neg fun h => hid h.1.2]

/-- An operation ends with the address of its port dropped, although the port is serviced. -/
def Drops (d : Directory) (op : PortOperation) : Prop :=
  op.Signals d .del ∧ (op.directory d).serves op.id

/-- An operation changes whether its port is serviced. -/
def Turns (d : Directory) (op : PortOperation) : Prop :=
  (op.directory d).serves op.id ≠ d.serves op.id

/-- The signal of an operation fits its port, unless it drops the address of a serviced one. -/
theorem Signals.fits_iff (hop : op.Coherent) {a : ArpAction} (h : op.Signals d a) :
    a = (op.directory d).fitting op.id ↔ ¬op.Drops d := by
  cases h with
  | @created port hserviced =>
      have hserves : (d.putPort port).serves port.id = true := by simp [serves_put, hserviced]
      refine iff_of_true ?_ fun hdrops => nomatch hdrops.1
      simp [directory, id, fitting, hserves]
  | @deleted port hserviced =>
      have hserves : (d.removePort port.id).serves port.id = false := by simp [serves_remove]
      refine iff_of_true ?_ fun hdrops => ?_
      · simp [directory, id, fitting, hserves]
      · exact absurd hdrops.2 (by simp [directory, id, hserves])
  | @refreshed original port hserviced hfresh =>
      have hserves : (d.putPort port).serves original.id = true := by
        have hid : port.id = original.id := hop
        simp [serves_put, hid, hserviced]
      refine iff_of_true ?_ fun hdrops => ?_
      · simp [directory, id, fitting, hserves]
      · cases hdrops.1 with
        | withdrawn _ hstale => exact hstale ⟨hserviced, hfresh⟩
  | withdrawn hserviced hstale hremoves =>
      unfold Drops fitting
      simp [Signals.withdrawn hserviced hstale hremoves]

/-- Where an operation sends no signal the neighbours are told right after it if its port turned and
they were not before it, or if it did not and they were. -/
theorem silent_fits_iff (hop : op.Coherent) {a : ArpAction} {misled : Prop}
    (hsilent : lastSignal? ((op.directory d).signals ctx (op.event d ctx)) op.id = none)
    (hbefore : a = d.fitting op.id ↔ ¬misled) :
    a = (op.directory d).fitting op.id ↔
      ¬(op.Drops d ∨ (¬∃ a, op.Signals d a) ∧ (op.Turns d ↔ ¬misled)) := by
  have hnone : ¬∃ a, op.Signals d a := by
    rintro ⟨a, hsignals⟩
    rw [(last_signal_event hop).2 hsignals] at hsilent
    cases hsilent
  have hdrops : ¬op.Drops d := fun h => hnone ⟨_, h.1⟩
  have hafter : a = (op.directory d).fitting op.id ↔ (op.Turns d ↔ ¬a = d.fitting op.id) :=
    eq_fitting_iff
  rw [hafter, hbefore, or_iff_right hdrops, and_iff_right hnone, not_not, not_iff, not_iff_not]

theorem fitting_other (op : PortOperation) (hop : op.Coherent) {id : String} (hid : op.id ≠ id) :
    (op.directory d).fitting id = d.fitting id := by
  have hserves : (op.directory d).serves id = d.serves id := by
    cases op with
    | create port => exact (serves_put d port id).trans (if_neg hid)
    | update original port =>
        have hsame : port.id = original.id := hop
        exact (serves_put d port id).trans (if_neg fun h => hid (hsame.symm.trans h))
    | delete port => exact (serves_remove d id port.id).trans (if_neg hid)
  rw [fitting, fitting, hserves]

end PortOperation

/-- The operations so far, the last one first, each with the directory that it met. -/
abbrev Operations := List (Directory × PortOperation)

/-- The neighbours of a port are misled: the last operation about it dropped its address although
the port is serviced, or sent no signal and turned a port that they were told of right, or did not
turn one that they were not. -/
def Misled (id : String) : Operations → Prop
  | [] => False
  | (d, op) :: past =>
    if op.id = id then
      op.Drops d ∨ (¬∃ a, op.Signals d a) ∧ (op.Turns d ↔ ¬Misled id past)
    else Misled id past

namespace Exchange

/-- The exchanges that operations lead to, where all end well, from one without signals. -/
inductive History : Operations → Exchange → Prop where
  | start {x : Exchange} (hbus : x.Registered) (hd : x.controller.directory.restored.Serving)
      (hquiet : x.controller.signals = []) : History [] x
  | step {past : Operations} {x y : Exchange} {op : PortOperation} {nesting : Nat} {ctx : Context}
      (h : History past x) (hop : op.Coherent)
      (hrun : op.run (nesting + 1) ctx x = some (.ok (.ok ()), y)) :
      History ((x.controller.directory, op) :: past) y

variable {past : Operations} {x : Exchange}

/-- An operation that ends well says the same of ports and signals once every service is up. -/
theorem run_well {x y : Exchange} (hbus : x.Registered)
    (hd : x.controller.directory.restored.Serving) {op : PortOperation} {nesting : Nat}
    {ctx : Context} (hrun : op.run (nesting + 1) ctx x = some (.ok (.ok ()), y)) :
    y.Registered ∧ y.controller.directory.restored.Serving ∧
      (∀ id, y.controller.directory.fitting id =
        (op.directory x.controller.directory).fitting id) ∧
      y.controller.signals = x.controller.signals ++
        (op.directory x.controller.directory).signals ctx
          (op.event x.controller.directory ctx) := by
  obtain ⟨hbus', hlinks, hsignals⟩ := PortOperation.run_signals (x := x.restored) hbus hd
    (PortOperation.run_restored hbus hrun)
  refine ⟨hbus', (PortOperation.directory_serving hd op).relinks hlinks, fun id => ?_, ?_⟩
  · refine (hlinks.fitting_eq id).trans ?_
    cases op <;> rfl
  · refine hsignals.trans ?_
    cases op <;> rfl

theorem History.filed (h : x.History past) :
    x.Registered ∧ x.controller.directory.restored.Serving := by
  induction h with
  | start hbus hd hquiet => exact ⟨hbus, hd⟩
  | @step past x y op nesting ctx h hop hrun ih =>
      obtain ⟨hbus, hd⟩ := ih
      obtain ⟨hbus', hd', -⟩ := run_well hbus hd hrun
      exact ⟨hbus', hd'⟩

/-- However ports are created, updated and deleted, as long as all ends well the last signal about a
port is an addition if the port is there and serviced and else a drop, unless its neighbours are
misled. -/
theorem last_signal_fits_iff (h : x.History past) {id : String} {a : ArpAction}
    (hlast : lastSignal? x.controller.signals id = some a) :
    a = x.controller.directory.fitting id ↔ ¬Misled id past := by
  induction h generalizing a with
  | start hbus hd hquiet =>
      rw [hquiet] at hlast
      cases hlast
  | @step past x y op nesting ctx h hop hrun ih =>
      obtain ⟨hbus, hd⟩ := h.filed
      obtain ⟨-, -, hfitting, hsignals⟩ := run_well hbus hd hrun
      rw [hsignals, last_signal_append, Option.or_eq_some_iff] at hlast
      rw [hfitting, Misled]
      by_cases hid : op.id = id
      · subst hid
        rw [if_pos rfl]
        rcases hlast with hsignal | ⟨hsilent, hbefore⟩
        · have hsignals := (PortOperation.last_signal_event hop).1 hsignal
          rw [hsignals.fits_iff hop, not_or, and_iff_left fun h => h.1 ⟨a, hsignals⟩]
        · exact PortOperation.silent_fits_iff hop hsilent (ih hbefore)
      · rw [if_neg hid]
        rw [PortOperation.last_signal_event_other hop hid] at hlast
        rcases hlast with hsignal | ⟨-, hbefore⟩
        · cases hsignal
        · rw [op.fitting_other hop hid]
          exact ih hbefore

end Exchange

/-! ## A port that is unbound -/

namespace SoleHost

/-- The serviced port, bound to no host. -/
def loose : Port := { port with boundHost := none }

/-- The exchange once the serviced port is created. -/
def settled : Exchange :=
  { idle with controller :=
    ((Controller.portCreated .administrator port).runOn
      { idle.controller with directory := idle.controller.directory.putPort port }).2 }

/-- The exchange once the port is unbound. -/
def loosened : Exchange :=
  { settled with controller :=
    ((Controller.portUpdated .administrator port loose).runOn
      { settled.controller with directory := settled.controller.directory.putPort loose }).2 }

/-- The port is created and then unbound. -/
def loosening : Operations :=
  [(settled.controller.directory, .update port loose), (idle.controller.directory, .create port)]

theorem loosened_history : loosened.History loosening := by
  have hbus : idle.Registered := rfl
  have hcreated : (PortOperation.create port).run 64 .administrator idle =
      some (.ok (.ok ()), settled) := by
    rw [PortOperation.run, Exchange.createPort,
      Exchange.publish_registered (x := idle.changeDirectory (·.putPort port)) hbus]
    rfl
  have hupdated : (PortOperation.update port loose).run 64 .administrator settled =
      some (.ok (.ok ()), loosened) := by
    rw [PortOperation.run, Exchange.updatePort,
      Exchange.publish_registered (x := settled.changeDirectory (·.putPort loose)) hbus]
    rfl
  exact .step (.step (.start hbus plain_directory_fabric.toServing rfl) trivial hcreated) rfl
    hupdated

end SoleHost

namespace Exchange

open SoleHost in
theorem last_signal_fits_iff_loosened :
    loosened.History loosening ∧ lastSignal? loosened.controller.signals port.id = some .del ∧
      (.del = loosened.controller.directory.fitting port.id ↔ ¬Misled port.id loosening) := by
  have hlast : lastSignal? loosened.controller.signals port.id = some .del := by decide +kernel
  exact ⟨loosened_history, hlast, last_signal_fits_iff loosened_history hlast⟩

open SoleHost in
/-- A serviced port is unbound, and a router goes from its host. The last signal about the port
drops its address, although it is there and serviced. -/
theorem serviced_port_dropped :
    loosened.History loosening ∧ loosened.controller.directory.ports.get? port.id = some loose ∧
      loose.isServiced ∧ lastSignal? loosened.controller.signals port.id = some .del := by
  exact ⟨loosened_history, by decide +kernel, by decide +kernel, by decide +kernel⟩

end Exchange

end RouterBinding
