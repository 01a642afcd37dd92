import RouterBinding.Event.Basic

/-!
# Delivery of events

A `Bus` keeps subscriptions in the order they were made. Publishing an event runs the subscriptions
of its kind that were there before, each once and in order, whatever the earlier ones answer; the
first failure is the answer of all. A subscriber answers by a `Reaction`, which may look around, put
requests to the controller, write to the journal, subscribe others and publish events in turn. How
deep events may be published inside others is bounded, and a publication beyond the bound has no
outcome.
-/

namespace RouterBinding

/-- What a subscriber can see: all but what the others do. -/
structure Sight where
  controller : Controller
  /-- The kinds that the subscriptions are for, in order. -/
  subscribed : List EventKind
  journal : List String

/-- What a subscriber does, step by step. -/
inductive Reaction where
  | finish (answer : Except ControllerError Unit)
  /-- Goes on with what there is to see at that time. -/
  | look (next : Sight → Reaction)
  /-- Puts a request to the controller and goes on with its answer. -/
  | request (action : Action Unit) (next : Except ControllerError Unit → Reaction)
  | write (line : String) (next : Reaction)
  | subscribe (kind : EventKind) (name : String) (handler : Context → PortEvent → Reaction)
    (next : Reaction)
  /-- Publishes another event and goes on with the outcome. -/
  | publish (ctx : Context) (event : PortEvent) (next : Except DispatchError Unit → Reaction)

/-- How a subscriber reacts to an event. -/
abbrev Handler := Context → PortEvent → Reaction

structure Subscription where
  kind : EventKind
  name : String
  handler : Handler

structure Bus where
  subscriptions : List Subscription := []

namespace Bus

def subscribe (b : Bus) (s : Subscription) : Bus := ⟨b.subscriptions ++ [s]⟩

/-- The subscriptions of one kind of events, in order. -/
def subscribers (b : Bus) (kind : EventKind) : List Subscription :=
  b.subscriptions.filter (·.kind = kind)

/-- A new subscription comes after all others of its kind. -/
theorem subscribers_subscribe (b : Bus) (s : Subscription) (kind : EventKind) :
    (b.subscribe s).subscribers kind =
      b.subscribers kind ++ if s.kind = kind then [s] else [] := by
  by_cases h : s.kind = kind <;> simp [subscribers, subscribe, h]

end Bus

/-- What events act on: the controller, the bus and the journal of the subscribers. -/
structure Exchange where
  controller : Controller
  bus : Bus
  journal : List String

def Exchange.sight (x : Exchange) : Sight :=
  ⟨x.controller, x.bus.subscriptions.map (·.kind), x.journal⟩

/-- The outcome of running something on an exchange with the exchange after it, unless events were
published beyond the bound. -/
abbrev Outcome (α : Type) := Option (α × Exchange)

/-- Runs a reaction; `publish` publishes the events inside it. -/
def Reaction.run (publish : Context → PortEvent → Exchange → Outcome (Except DispatchError Unit)) :
    Reaction → Exchange → Outcome (Except ControllerError Unit)
  | finish answer, x => some (answer, x)
  | look next, x => (next x.sight).run publish x
  | request action next, x =>
    let (answer, c) := action.runOn x.controller
    (next answer).run publish { x with controller := c }
  | write line next, x => next.run publish { x with journal := x.journal ++ [line] }
  | subscribe kind name handler next, x =>
    next.run publish { x with bus := x.bus.subscribe ⟨kind, name, handler⟩ }
  | .publish ctx event next, x =>
    (publish ctx event x).bind fun (outcome, x) => (next outcome).run publish x

namespace Exchange

/-- The outcome of a publication from the failure of one subscriber and the outcome of the later
ones. -/
def firstFailure (s : Subscription) (answer : Except ControllerError Unit)
    (later : Except DispatchError Unit) : Except DispatchError Unit :=
  match answer with
  | .ok () => later
  | .error e => .error ⟨s.name, s.kind, e⟩

/-- Runs subscribers one after another. -/
def deliver (react : Subscription → Exchange → Outcome (Except ControllerError Unit)) :
    List Subscription → Exchange → Outcome (Except DispatchError Unit)
  | [], x => some (.ok (), x)
  | s :: rest, x =>
    (react s x).bind fun (answer, x) =>
      (deliver react rest x).map fun (later, x) => (firstFailure s answer later, x)

/-- Publishes an event inside which events are published at most `nesting` deep. -/
def publish : (nesting : Nat) → Context → PortEvent → Exchange → Outcome (Except DispatchError Unit)
  | 0, _, _, _ => none
  | nesting + 1, ctx, event, x =>
    deliver (fun s => (s.handler ctx event).run (publish nesting)) (x.bus.subscribers event.kind) x

end Exchange

end RouterBinding
