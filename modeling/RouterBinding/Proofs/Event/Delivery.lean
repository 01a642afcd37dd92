import Mathlib.Logic.Relation
import RouterBinding.Event.Probe

/-!
# What a publication delivers

`Publishes` says without any bound how a publication ends: the subscribers that were there when it
began hear of the event one after another, each runs until it answers, and publications inside it
end before it goes on. `publishes_iff` says that this is what publishing with some bound comes to.
`publish_delivers` draws the conclusions: which subscribers hear of the event and what their answers
amount to do not depend on what they do to the bus, which only grows at its end, and a subscriber
that is added meanwhile hears of the events that are published once it is there.
-/

namespace RouterBinding

/-- What a subscriber that was given an event answered. -/
structure Reply where
  subscriber : Subscription
  answer : Except ControllerError Unit

/-- What replies amount to: the first failure, if there is one. -/
inductive Reports (kind : EventKind) : List Reply → Except DispatchError Unit → Prop where
  | nil : Reports kind [] (.ok ())
  | fine {s : Subscription} {replies : List Reply} {outcome : Except DispatchError Unit}
      (h : Reports kind replies outcome) : Reports kind (⟨s, .ok ()⟩ :: replies) outcome
  | failed (s : Subscription) (e : ControllerError) (replies : List Reply) :
      Reports kind (⟨s, .error e⟩ :: replies) (.error ⟨s.name, kind, e⟩)

namespace Reports

variable {kind : EventKind} {replies : List Reply} {outcome outcome' : Except DispatchError Unit}

theorem unique (h : Reports kind replies outcome) (h' : Reports kind replies outcome') :
    outcome = outcome' := by
  induction h with
  | nil =>
      cases h'
      rfl
  | fine _ ih =>
      cases h' with
      | fine h' => exact ih h'
  | failed s e replies =>
      cases h'
      rfl

theorem first_failure {s : Subscription} (hs : s.kind = kind) (answer : Except ControllerError Unit)
    (h : Reports kind replies outcome) :
    Reports kind (⟨s, answer⟩ :: replies) (Exchange.firstFailure s answer outcome) := by
  cases answer with
  | ok u => exact .fine h
  | error e =>
      rw [Exchange.firstFailure, hs]
      exact .failed s e replies

/-- All is well exactly if every answer is. -/
theorem ok_iff (h : Reports kind replies outcome) :
    outcome = .ok () ↔ ∀ r ∈ replies, r.answer = .ok () := by
  induction h with
  | nil => simp
  | fine _ ih => simpa using ih
  | failed s e replies => simp

/-- A failure is that of the first reply that is one. -/
theorem error_iff (h : Reports kind replies outcome) (e : DispatchError) :
    outcome = .error e ↔ ∃ before r after cause, replies = before ++ r :: after ∧
      (∀ r' ∈ before, r'.answer = .ok ()) ∧ r.answer = .error cause ∧
      e = ⟨r.subscriber.name, kind, cause⟩ := by
  induction h with
  | nil => simp
  | @fine s replies outcome _ ih =>
      rw [ih]
      constructor
      · rintro ⟨before, r, after, cause, rfl, hbefore, hcause⟩
        exact ⟨⟨s, .ok ()⟩ :: before, r, after, cause, rfl, by simpa using hbefore, hcause⟩
      · rintro ⟨before, r, after, cause, hreplies, hbefore, hcause, he⟩
        cases before with
        | nil =>
            cases hreplies
            cases hcause
        | cons r' before =>
            cases hreplies
            exact ⟨before, r, after, cause, rfl, (List.forall_mem_cons.1 hbefore).2, hcause, he⟩
  | failed s cause replies =>
      constructor
      · rintro ⟨⟩
        exact ⟨[], _, replies, cause, rfl, by simp, rfl, rfl⟩
      · rintro ⟨before, r, after, cause', hreplies, hbefore, hcause, rfl⟩
        cases before with
        | nil =>
            cases hreplies
            cases hcause
            rfl
        | cons r' before =>
            cases hreplies
            cases (List.forall_mem_cons.1 hbefore).1

theorem total (kind : EventKind) (replies : List Reply) :
    ∃ outcome, Reports kind replies outcome := by
  induction replies with
  | nil => exact ⟨_, .nil⟩
  | cons r replies ih =>
      obtain ⟨s, answer⟩ := r
      cases answer with
      | error e => exact ⟨_, .failed s e replies⟩
      | ok u =>
          obtain ⟨outcome, h⟩ := ih
          exact ⟨outcome, .fine h⟩

/-- What replies report, in terms of the answers. -/
theorem iff_answers :
    Reports kind replies outcome ↔
      (outcome = .ok () ↔ ∀ r ∈ replies, r.answer = .ok ()) ∧
      ∀ e, outcome = .error e ↔ ∃ before r after cause, replies = before ++ r :: after ∧
        (∀ r' ∈ before, r'.answer = .ok ()) ∧ r.answer = .error cause ∧
        e = ⟨r.subscriber.name, kind, cause⟩ := by
  constructor
  · exact fun h => ⟨h.ok_iff, h.error_iff⟩
  · rintro ⟨hok, herror⟩
    obtain ⟨outcome', h⟩ := total kind replies
    cases outcome' with
    | ok u =>
        rw [hok.2 (h.ok_iff.1 rfl)]
        exact h
    | error e =>
        rw [(herror e).2 ((h.error_iff e).1 rfl)]
        exact h

end Reports

mutual
/-- A reaction ends with an answer. -/
inductive Runs : Reaction → Exchange → Except ControllerError Unit → Exchange → Prop where
  | finish (answer : Except ControllerError Unit) (x : Exchange) :
      Runs (.finish answer) x answer x
  | look {next : Sight → Reaction} {x y : Exchange} {answer : Except ControllerError Unit}
      (h : Runs (next x.sight) x answer y) : Runs (.look next) x answer y
  | request {action : Action Unit} {next : Except ControllerError Unit → Reaction}
      {x y : Exchange} {answer : Except ControllerError Unit}
      (h : Runs (next (action.runOn x.controller).1)
        { x with controller := (action.runOn x.controller).2 } answer y) :
      Runs (.request action next) x answer y
  | write {line : String} {next : Reaction} {x y : Exchange}
      {answer : Except ControllerError Unit}
      (h : Runs next { x with journal := x.journal ++ [line] } answer y) :
      Runs (.write line next) x answer y
  | subscribe {kind : EventKind} {name : String} {handler : Handler} {next : Reaction}
      {x y : Exchange} {answer : Except ControllerError Unit}
      (h : Runs next { x with bus := x.bus.subscribe ⟨kind, name, handler⟩ } answer y) :
      Runs (.subscribe kind name handler next) x answer y
  | publish {ctx : Context} {event : PortEvent} {next : Except DispatchError Unit → Reaction}
      {x y z : Exchange} {outcome : Except DispatchError Unit}
      {answer : Except ControllerError Unit} (hpublish : Publishes ctx event x outcome y)
      (h : Runs (next outcome) y answer z) : Runs (.publish ctx event next) x answer z

/-- Subscribers hear of an event, each on the exchange that the one before left, and reply. -/
inductive Hear : Context → PortEvent → List Reply → Exchange → Exchange → Prop where
  | nil (ctx : Context) (event : PortEvent) (x : Exchange) : Hear ctx event [] x x
  | cons {ctx : Context} {event : PortEvent} {s : Subscription}
      {answer : Except ControllerError Unit} {replies : List Reply} {x y z : Exchange}
      (hrun : Runs (s.handler ctx event) x answer y) (h : Hear ctx event replies y z) :
      Hear ctx event (⟨s, answer⟩ :: replies) x z

/-- Those who had subscribed to the kind of the event when the publication begins hear of it, in the
order in which they did, and the outcome is what their replies report. -/
inductive Publishes :
    Context → PortEvent → Exchange → Except DispatchError Unit → Exchange → Prop where
  | deliver {ctx : Context} {event : PortEvent} {replies : List Reply} {x y : Exchange}
      {outcome : Except DispatchError Unit} (h : Hear ctx event replies x y)
      (hsubscribers : replies.map Reply.subscriber =
        x.bus.subscriptions.filter fun s => s.kind = event.kind)
      (hreports : Reports event.kind replies outcome) : Publishes ctx event x outcome y
end

/-! ## Publishing with a bound -/

/-- How events are published inside a reaction. -/
abbrev Publisher := Context → PortEvent → Exchange → Outcome (Except DispatchError Unit)

/-- What has an outcome with one publisher has the same with another. -/
def Publisher.Below (p p' : Publisher) : Prop :=
  ∀ ctx event x result, p ctx event x = some result → p' ctx event x = some result

theorem Reaction.run_mono {p p' : Publisher} (hp : p.Below p') {r : Reaction} {x : Exchange}
    {result : Except ControllerError Unit × Exchange} (h : r.run p x = some result) :
    r.run p' x = some result := by
  induction r generalizing x with
  | finish answer => exact h
  | look next ih => exact ih _ h
  | request action next ih => exact ih _ h
  | write line next ih => exact ih h
  | subscribe kind name handler next _ ih => exact ih h
  | publish ctx event next ih =>
      obtain ⟨⟨outcome, y⟩, hpublish, hnext⟩ := Option.bind_eq_some_iff.1 h
      exact Option.bind_eq_some_iff.2 ⟨_, hp _ _ _ _ hpublish, ih _ hnext⟩

namespace Exchange

theorem deliver_mono {p p' : Publisher} (hp : p.Below p') {ctx : Context} {event : PortEvent}
    {subscribers : List Subscription} {x : Exchange}
    {result : Except DispatchError Unit × Exchange}
    (h : deliver (fun s => (s.handler ctx event).run p) subscribers x = some result) :
    deliver (fun s => (s.handler ctx event).run p') subscribers x = some result := by
  induction subscribers generalizing x result with
  | nil => exact h
  | cons s rest ih =>
      obtain ⟨⟨answer, y⟩, hrun, hrest⟩ := Option.bind_eq_some_iff.1 h
      obtain ⟨later, hlater, rfl⟩ := Option.map_eq_some_iff.1 hrest
      rw [deliver, Reaction.run_mono hp hrun]
      simp only [Option.bind_some]
      rw [ih hlater]
      rfl

/-- A wider bound changes no outcome. -/
theorem publish_mono {n m : Nat} (hle : n ≤ m) : Publisher.Below (publish n) (publish m) := by
  induction n generalizing m with
  | zero =>
      intro ctx event x result h
      cases h
  | succ n ih =>
      cases m with
      | zero => cases hle
      | succ m =>
          intro ctx event x result h
          exact deliver_mono (ih (Nat.le_of_succ_le_succ hle)) h

end Exchange

theorem Bus.kind_of_subscribers {b : Bus} {kind : EventKind} {s : Subscription}
    (h : s ∈ b.subscribers kind) : s.kind = kind := by
  simpa using (List.mem_filter.1 h).2

/-! ## The bound and the relations agree -/

section Sound

variable {p : Publisher} {ctx : Context} {event : PortEvent} {x y : Exchange}

theorem runs_of_run
    (hp : ∀ ctx event x outcome y, p ctx event x = some (outcome, y) →
      Publishes ctx event x outcome y)
    {r : Reaction} {answer : Except ControllerError Unit} (h : r.run p x = some (answer, y)) :
    Runs r x answer y := by
  induction r generalizing x with
  | finish =>
      cases h
      exact .finish _ _
  | look next ih => exact .look (ih _ h)
  | request action next ih => exact .request (ih _ h)
  | write line next ih => exact .write (ih h)
  | subscribe kind name handler next _ ih => exact .subscribe (ih h)
  | publish ctx event next ih =>
      obtain ⟨⟨outcome, z⟩, hpublish, hnext⟩ := Option.bind_eq_some_iff.1 h
      exact .publish (hp _ _ _ _ _ hpublish) (ih _ hnext)

theorem hear_of_deliver
    (hp : ∀ ctx event x outcome y, p ctx event x = some (outcome, y) →
      Publishes ctx event x outcome y)
    {subscribers : List Subscription} (hkind : ∀ s ∈ subscribers, s.kind = event.kind)
    {outcome : Except DispatchError Unit}
    (h : Exchange.deliver (fun s => (s.handler ctx event).run p) subscribers x =
      some (outcome, y)) :
    ∃ replies, Hear ctx event replies x y ∧ replies.map Reply.subscriber = subscribers ∧
      Reports event.kind replies outcome := by
  induction subscribers generalizing x outcome with
  | nil =>
      cases h
      exact ⟨[], .nil _ _ _, rfl, .nil⟩
  | cons s rest ih =>
      obtain ⟨hs, hrest⟩ := List.forall_mem_cons.1 hkind
      obtain ⟨⟨answer, z⟩, hrun, hlater⟩ := Option.bind_eq_some_iff.1 h
      obtain ⟨⟨later, y⟩, hdeliver, heq⟩ := Option.map_eq_some_iff.1 hlater
      cases heq
      obtain ⟨replies, hreplies, hsubscribers, hreports⟩ := ih hrest hdeliver
      exact ⟨⟨s, answer⟩ :: replies, .cons (runs_of_run hp hrun) hreplies,
        congrArg (s :: ·) hsubscribers, hreports.first_failure hs answer⟩

theorem publishes_of_publish {nesting : Nat} {outcome : Except DispatchError Unit}
    (h : Exchange.publish nesting ctx event x = some (outcome, y)) :
    Publishes ctx event x outcome y := by
  induction nesting generalizing ctx event x outcome y with
  | zero => cases h
  | succ nesting ih =>
      obtain ⟨replies, hreplies, hsubscribers, hreports⟩ :=
        hear_of_deliver (fun _ _ _ _ _ hpublish => ih hpublish)
          (fun s hs => Bus.kind_of_subscribers hs) h
      exact .deliver hreplies hsubscribers hreports

end Sound

-- Both relations and the delivery between them are walked at once, since what is published inside a
-- reaction ends by a derivation that is part of the one of the reaction.
mutual
theorem Runs.complete {r : Reaction} {x y : Exchange} {answer : Except ControllerError Unit} :
    Runs r x answer y → ∃ nesting, r.run (Exchange.publish nesting) x = some (answer, y)
  | .finish _ _ => ⟨0, rfl⟩
  | .look h | .request h | .write h | .subscribe h => h.complete
  | .publish hpublish h => by
      -- the wider of two bounds is enough for both parts
      obtain ⟨n, hn⟩ := hpublish.complete
      obtain ⟨m, hm⟩ := h.complete
      refine ⟨max n m, ?_⟩
      rw [Reaction.run, Exchange.publish_mono (Nat.le_max_left n m) _ _ _ _ hn]
      exact Reaction.run_mono (Exchange.publish_mono (Nat.le_max_right n m)) hm

theorem Hear.complete {ctx : Context} {event : PortEvent} {replies : List Reply}
    {x y : Exchange} : Hear ctx event replies x y →
    (∀ r ∈ replies, r.subscriber.kind = event.kind) →
    ∃ nesting outcome, Reports event.kind replies outcome ∧
      Exchange.deliver (fun s => (s.handler ctx event).run (Exchange.publish nesting))
        (replies.map Reply.subscriber) x = some (outcome, y)
  | .nil _ _ _, _ => ⟨0, _, .nil, rfl⟩
  | @Hear.cons _ _ s answer replies _ _ _ hrun h, hkind => by
      obtain ⟨hs, hrest⟩ := List.forall_mem_cons.1 hkind
      obtain ⟨n, hn⟩ := hrun.complete
      obtain ⟨m, outcome, hreports, hm⟩ := h.complete hrest
      refine ⟨max n m, _, hreports.first_failure hs answer, ?_⟩
      rw [List.map_cons, Exchange.deliver,
        Reaction.run_mono (Exchange.publish_mono (Nat.le_max_left n m)) hn]
      simp only [Option.bind_some]
      rw [Exchange.deliver_mono (Exchange.publish_mono (Nat.le_max_right n m)) hm]
      rfl

theorem Publishes.complete {ctx : Context} {event : PortEvent} {x y : Exchange}
    {outcome : Except DispatchError Unit} : Publishes ctx event x outcome y →
    ∃ nesting, Exchange.publish nesting ctx event x = some (outcome, y)
  | .deliver h hsubscribers hreports => by
      obtain ⟨n, outcome', hreports', hn⟩ := h.complete fun r hr =>
        Bus.kind_of_subscribers (hsubscribers ▸ List.mem_map_of_mem hr)
      rw [hsubscribers, hreports'.unique hreports] at hn
      exact ⟨n + 1, hn⟩
end

/-- Publishing within some bound is publishing. -/
theorem publishes_iff {ctx : Context} {event : PortEvent} {x y : Exchange}
    {outcome : Except DispatchError Unit} :
    Publishes ctx event x outcome y ↔
      ∃ nesting, Exchange.publish nesting ctx event x = some (outcome, y) :=
  ⟨Publishes.complete, fun ⟨_, h⟩ => publishes_of_publish h⟩

/-! ## The bus only grows -/

mutual
theorem Runs.grows {r : Reaction} {x y : Exchange} {answer : Except ControllerError Unit} :
    Runs r x answer y → x.bus.subscriptions <+: y.bus.subscriptions
  | .finish _ _ => List.prefix_rfl
  | .look h | .request h | .write h => h.grows
  | .subscribe h => (List.prefix_append _ _).trans h.grows
  | .publish hpublish h => hpublish.grows.trans h.grows

theorem Hear.grows {ctx : Context} {event : PortEvent} {replies : List Reply}
    {x y : Exchange} :
    Hear ctx event replies x y → x.bus.subscriptions <+: y.bus.subscriptions
  | .nil _ _ _ => List.prefix_rfl
  | .cons hrun h => hrun.grows.trans h.grows

theorem Publishes.grows {ctx : Context} {event : PortEvent} {x y : Exchange}
    {outcome : Except DispatchError Unit} :
    Publishes ctx event x outcome y → x.bus.subscriptions <+: y.bus.subscriptions
  | .deliver h _ _ => h.grows
end

/-- The publication of an event, which begins on an exchange. -/
structure Publication where
  ctx : Context
  event : PortEvent
  start : Exchange

/-- A reaction begins a publication, now or after publications that have ended. -/
inductive Begins : Reaction → Exchange → Publication → Prop where
  | now (ctx : Context) (event : PortEvent) (next : Except DispatchError Unit → Reaction)
      (x : Exchange) : Begins (.publish ctx event next) x ⟨ctx, event, x⟩
  | look {next : Sight → Reaction} {x : Exchange} {q : Publication}
      (h : Begins (next x.sight) x q) : Begins (.look next) x q
  | request {action : Action Unit} {next : Except ControllerError Unit → Reaction}
      {x : Exchange} {q : Publication}
      (h : Begins (next (action.runOn x.controller).1)
        { x with controller := (action.runOn x.controller).2 } q) :
      Begins (.request action next) x q
  | write {line : String} {next : Reaction} {x : Exchange} {q : Publication}
      (h : Begins next { x with journal := x.journal ++ [line] } q) : Begins (.write line next) x q
  | subscribe {kind : EventKind} {name : String} {handler : Handler} {next : Reaction}
      {x : Exchange} {q : Publication}
      (h : Begins next { x with bus := x.bus.subscribe ⟨kind, name, handler⟩ } q) :
      Begins (.subscribe kind name handler next) x q
  | later {ctx : Context} {event : PortEvent} {next : Except DispatchError Unit → Reaction}
      {x y : Exchange} {outcome : Except DispatchError Unit} {q : Publication}
      (hpublish : Publishes ctx event x outcome y) (h : Begins (next outcome) y q) :
      Begins (.publish ctx event next) x q

theorem Begins.grows {r : Reaction} {x : Exchange} {q : Publication} (h : Begins r x q) :
    x.bus.subscriptions <+: q.start.bus.subscriptions := by
  induction h with
  | now => exact List.prefix_rfl
  | look _ ih | request _ ih | write _ ih => exact ih
  | subscribe _ ih => exact (List.prefix_append _ _).trans ih
  | later hpublish _ ih => exact hpublish.grows.trans ih

/-- A publication is begun by a subscriber that hears of another one. -/
inductive Publication.Leads (p q : Publication) : Prop where
  | intro (replies : List Reply) (s : Subscription) (rest : List Subscription) (x : Exchange)
      (hsubscribers : replies.map Reply.subscriber ++ s :: rest =
        p.start.bus.subscriptions.filter fun s => s.kind = p.event.kind)
      (hreplies : Hear p.ctx p.event replies p.start x)
      (hbegins : Begins (s.handler p.ctx p.event) x q)

/-- What is published in the course of a publication, however deep, begins on the bus of that
publication or one that has grown since. -/
theorem Publication.grows {p q : Publication} (h : Relation.TransGen Leads p q) :
    p.start.bus.subscriptions <+: q.start.bus.subscriptions := by
  have hleads : ∀ {p q : Publication}, p.Leads q →
      p.start.bus.subscriptions <+: q.start.bus.subscriptions := by
    rintro p q ⟨_, _, _, _, -, hreplies, hbegins⟩
    exact hreplies.grows.trans hbegins.grows
  induction h with
  | single h => exact hleads h
  | tail _ h ih => exact ih.trans (hleads h)

namespace Exchange

/-- A publication that ends has given the event to those who had subscribed to its kind when it
began, to each once and in the order in which they did, whatever they answered; it fails with the
first of them that failed. Subscriptions are added at the end only, and what is published in the
course of it is heard by those that were made by then as well. -/
theorem publish_delivers (ctx : Context) (event : PortEvent) (x : Exchange) :
    (∀ outcome y, (∃ nesting, publish nesting ctx event x = some (outcome, y)) ↔
      ∃ replies, Hear ctx event replies x y ∧
        replies.map Reply.subscriber =
          x.bus.subscriptions.filter (fun s => s.kind = event.kind) ∧
        (outcome = .ok () ↔ ∀ r ∈ replies, r.answer = .ok ()) ∧
        ∀ e, outcome = .error e ↔ ∃ before r after cause, replies = before ++ r :: after ∧
          (∀ r' ∈ before, r'.answer = .ok ()) ∧ r.answer = .error cause ∧
          e = ⟨r.subscriber.name, event.kind, cause⟩) ∧
    (∀ nesting outcome y, publish nesting ctx event x = some (outcome, y) →
      x.bus.subscriptions <+: y.bus.subscriptions) ∧
    ∀ q, Relation.TransGen Publication.Leads ⟨ctx, event, x⟩ q →
      ∃ made, q.start.bus.subscriptions = x.bus.subscriptions ++ made ∧
        ∀ nesting outcome y, publish nesting q.ctx q.event q.start = some (outcome, y) →
          ∃ replies, Hear q.ctx q.event replies q.start y ∧
            replies.map Reply.subscriber =
              x.bus.subscriptions.filter (fun s => s.kind = q.event.kind) ++
                made.filter fun s => s.kind = q.event.kind := by
  refine ⟨fun outcome y => ?_, fun nesting outcome y h => ?_, fun q h => ?_⟩
  · rw [← publishes_iff]
    constructor
    · rintro ⟨hreplies, hsubscribers, hreports⟩
      exact ⟨_, hreplies, hsubscribers, Reports.iff_answers.1 hreports⟩
    · rintro ⟨replies, hreplies, hsubscribers, hanswers⟩
      exact .deliver hreplies hsubscribers (Reports.iff_answers.2 hanswers)
  · exact (publishes_of_publish h).grows
  · obtain ⟨made, hmade⟩ := Publication.grows h
    refine ⟨made, hmade.symm, fun nesting outcome y hpublish => ?_⟩
    obtain ⟨hreplies, hsubscribers, -⟩ := publishes_of_publish hpublish
    rw [← hmade, List.filter_append] at hsubscribers
    exact ⟨_, hreplies, hsubscribers⟩

-- A subscriber that is added meanwhile does not hear of the event, and one that fails stops nobody.
example :
    (publish 1 .administrator (.created ⟨"p", "t", "n", "d", "", "m", none, []⟩)
      ⟨⟨∅, ∅, .ofSeed 0, []⟩,
        ⟨[⟨.afterCreate, "a", Probe.subscribe.handler "a"⟩,
          ⟨.afterCreate, "b", Probe.fail.handler "b"⟩,
          ⟨.afterCreate, "c", Probe.record.handler "c"⟩]⟩, []⟩).map
        (fun (outcome, x) => (outcome, x.journal, x.bus.subscriptions.map Subscription.name)) =
      some (.error ⟨"b", .afterCreate, .routerNotFound "b"⟩,
        ["a:after_create:p:false", "b:after_create:p:false", "c:after_create:p:false"],
        ["a", "b", "c", "a+"]) := by
  rfl

end Exchange

end RouterBinding
