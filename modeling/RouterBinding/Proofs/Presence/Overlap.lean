import RouterBinding.Proofs.Event.Lifecycle

/-!
# A deletion and a creation under way

One client deletes a port while another one creates a port on the same host. The deletion finds out
what to remove while its port is still there, removes the port, and then removes the routers that it
found, without asking again; the creation stores its port and then brings its routers. A schedule
says in which order the clients take their steps. The deletion may strand routers of the new port
(`Strands`) if the creation ends before its last step.
-/

namespace RouterBinding

open Controller Exchange

/-- The two clients. -/
inductive Client where
  | deleter
  | creator
  deriving DecidableEq

/-- Where the deletion of a port stands. -/
inductive Deletion where
  | pending
  /-- The removals are found, and the port is still there. -/
  | prepared (removals : List Removal)
  | removed (removals : List Removal)
  /-- The removals could not be found, and the port stays. -/
  | refused (e : ControllerError)
  | ended (outcome : Except DispatchError Unit)

/-- Where the creation of a port stands. -/
inductive Creation where
  | pending
  | stored
  | ended (outcome : Except DispatchError Unit)

/-- An exchange with a deletion and a creation under way. -/
structure Overlap where
  exchange : Exchange
  deletion : Deletion
  creation : Creation

/-- What the two clients do: which ports they delete and create, and who they are. -/
structure Clients where
  leaving : Port
  arriving : Port
  deleter : Context
  creator : Context

namespace Clients

/-- The next step of the deletion. Once it has ended there is none. -/
def delete (w : Clients) (o : Overlap) : Option Overlap :=
  match o.deletion with
  | .pending =>
    match o.exchange.request (prepareDelete w.deleter w.leaving) with
    | (.ok removals, x) => some { o with exchange := x, deletion := .prepared removals }
    | (.error e, x) => some { o with exchange := x, deletion := .refused e }
  | .prepared removals =>
    some { o with
      exchange := o.exchange.changeDirectory (·.removePort w.leaving.id)
      deletion := .removed removals }
  | .removed removals =>
    (publish usualNesting w.deleter (.deleted w.leaving removals) o.exchange).map
      fun (outcome, x) => { o with exchange := x, deletion := .ended outcome }
  | .refused _ => some o
  | .ended _ => some o

/-- The next step of the creation. Once it has ended there is none. -/
def create (w : Clients) (o : Overlap) : Option Overlap :=
  match o.creation with
  | .pending =>
    some { o with
      exchange := o.exchange.changeDirectory (·.putPort w.arriving)
      creation := .stored }
  | .stored =>
    (publish usualNesting w.creator (.created w.arriving) o.exchange).map
      fun (outcome, x) => { o with exchange := x, creation := .ended outcome }
  | .ended _ => some o

def step (w : Clients) (o : Overlap) : Client → Option Overlap
  | .deleter => w.delete o
  | .creator => w.create o

/-- The clients take turns as a schedule says, each of them from the start. -/
def run (w : Clients) (x : Exchange) (schedule : List Client) : Option Overlap :=
  schedule.foldlM w.step ⟨x, .pending, .pending⟩

/-- A deletion that nobody interrupts is a deletion in one go. -/
theorem run_deleter (w : Clients) (x : Exchange) :
    w.run x [.deleter, .deleter, .deleter] =
      (x.deletePort usualNesting w.deleter w.leaving).map fun (answer, x) =>
        match answer with
        | .ok (_, outcome) => ⟨x, .ended outcome, .pending⟩
        | .error e => ⟨x, .refused e, .pending⟩ := by
  unfold deletePort
  simp only [run, List.foldlM_cons, List.foldlM_nil, step, delete]
  rcases x.request (prepareDelete w.deleter w.leaving) with ⟨e | removals, y⟩
  · rfl
  · simp only [Option.bind_eq_bind, Option.bind_some, Option.map_map]
    cases publish usualNesting w.deleter (.deleted w.leaving removals)
      (y.changeDirectory (·.removePort w.leaving.id)) <;> rfl

/-- A creation that nobody interrupts is a creation in one go. -/
theorem run_creator (w : Clients) (x : Exchange) :
    w.run x [.creator, .creator] =
      (x.createPort usualNesting w.creator w.arriving).map fun (outcome, x) =>
        ⟨x, .pending, .ended outcome⟩ := by
  unfold createPort
  simp only [run, List.foldlM_cons, List.foldlM_nil, step, create, Option.bind_eq_bind,
    Option.bind_some]
  cases publish usualNesting w.creator (.created w.arriving)
    (x.changeDirectory (·.putPort w.arriving)) <;> rfl

/-! ## Which routers are stranded -/

/-- The creation has ended when the deleter takes its third step. -/
def Overtaken (schedule : List Client) : Prop :=
  ∃ before, before ++ [.deleter] <+: schedule ∧ before.count .deleter = 2 ∧
    2 ≤ before.count .creator

/-- The directory in which the deleter looks for the routers to remove. The new port is in it if the
creator comes first. -/
def searched (w : Clients) (d : Directory) (schedule : List Client) : Directory :=
  if schedule.head? = some .creator then d.putPort w.arriving else d

/-- The deletion strands a router: nothing but its port needed the router on the host when the
deleter looked, but it removes the router once the creation has ended, and does not keep the host
binding. -/
structure Strands (w : Clients) (x : Exchange) (schedule : List Client) (d : Directory)
    (host agent router : String) : Prop where
  overtaken : Overtaken schedule
  abandoned : (w.searched x.controller.directory schedule).Abandons w.leaving.id host router
  unkept : ¬x.controller.store.KeepsHost d .administrator router agent

theorem overtaken_concat {schedule : List Client} {client : Client} :
    Overtaken (schedule ++ [client]) ↔ Overtaken schedule ∨
      client = .deleter ∧ schedule.count .deleter = 2 ∧ 2 ≤ schedule.count .creator := by
  unfold Overtaken
  constructor
  · intro h
    obtain ⟨before, hbefore, hdeleter, hcreator⟩ := h
    rcases List.prefix_concat_iff.1 hbefore with heq | hbefore
    · obtain ⟨rfl, hclient⟩ := List.append_inj' heq rfl
      exact .inr ⟨(List.singleton_inj.1 hclient).symm, hdeleter, hcreator⟩
    · exact .inl ⟨before, hbefore, hdeleter, hcreator⟩
  · intro h
    rcases h with ⟨before, hbefore, hcounts⟩ | ⟨rfl, hcounts⟩
    · exact ⟨before, hbefore.trans (List.prefix_append _ _), hcounts⟩
    · exact ⟨schedule, List.prefix_rfl, hcounts⟩

/-- Overtaking takes both a creation that has ended and a third step of the deleter. -/
theorem Overtaken.counts {schedule : List Client} (h : Overtaken schedule) :
    3 ≤ schedule.count .deleter ∧ 2 ≤ schedule.count .creator := by
  obtain ⟨before, ⟨rest, rfl⟩, hdeleter, hcreator⟩ := h
  simp only [List.count_append, List.count_singleton_self]
  omega

theorem searched_concat (w : Clients) (d : Directory) {schedule : List Client} (client : Client)
    (h : schedule ≠ []) : w.searched d (schedule ++ [client]) = w.searched d schedule := by
  unfold searched
  rw [List.head?_append, List.head?_eq_some_head h, Option.some_or]

/-- To look for the routers to remove is not to come first. -/
theorem searched_deleter (w : Clients) (d : Directory) (schedule : List Client) :
    w.searched d (schedule ++ [.deleter]) = w.searched d schedule := by
  cases schedule with
  | nil => rfl
  | cons client schedule => exact w.searched_concat d .deleter (List.cons_ne_nil _ _)

end Clients

end RouterBinding
