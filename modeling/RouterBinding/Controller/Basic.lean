import RouterBinding.Binding.Store
import RouterBinding.Controller.Error
import RouterBinding.Directory.Notice
import RouterBinding.Directory.Presence
import RouterBinding.Placement.Choice

/-!
# The controller

A `Controller` is what a request may read and change: the directory, the binding store, the words
drawn for choices, and the notices sent. An `Action` runs on it and either answers or fails; what
it did before it failed stays done, and only a transaction of the store is one unit. The laws of
`runOn` say what each kind of request answers and leaves.
-/

namespace RouterBinding

structure Controller where
  directory : Directory
  store : Store
  draws : Draws
  /-- The notices sent, in order. -/
  sent : List Notice

/-- A request to the controller. -/
abbrev Action (α : Type) := ExceptT ControllerError (StateM Controller) α

namespace Action

variable {α : Type}

/-- Runs a request: its answer or error, and the controller after it. -/
def runOn (a : Action α) (c : Controller) : Except ControllerError α × Controller := a c

/-- The error for a question that the directory did not answer. -/
def ofFault (f : Fault) : ControllerError := .directory f.message

/-- Asks the directory. -/
def ask (question : Directory → Except Fault α) : Action α := fun c =>
  ((question c.directory).mapError ofFault, c)

/-- Reads the store. -/
def consult (query : Store → Except StoreError α) : Action α := fun c =>
  ((query c.store).mapError .store, c)

/-- Changes the store by a transaction. -/
def commit (t : Transaction ControllerError α) : Action α := fun c =>
  let (answer, store) := c.store.commit t
  (answer, { c with store := store })

/-- Changes the directory. -/
def change (f : Directory → Except Fault Directory) : Action Unit := fun c =>
  match f c.directory with
  | .ok d => (.ok (), { c with directory := d })
  | .error e => (.error (ofFault e), c)

/-- Sends a notice. -/
def notify (n : Notice) : Action Unit := modify fun c => { c with sent := c.sent ++ [n] }

@[simp] theorem run_on_pure (a : α) (c : Controller) :
    (pure a : Action α).runOn c = (.ok a, c) := rfl

@[simp] theorem run_on_throw (e : ControllerError) (c : Controller) :
    (throw e : Action α).runOn c = (.error e, c) := rfl

/-- The second of two requests meets the controller as the first one left it, unless that failed. -/
theorem run_on_bind {β : Type} (a : Action α) (f : α → Action β) (c : Controller) :
    (a >>= f).runOn c =
      match a.runOn c with
      | (.ok x, c') => (f x).runOn c'
      | (.error e, c') => (.error e, c') := by
  show (match a c with | (x, c') => ExceptT.bindCont f x c') = _
  rcases h : a c with ⟨x | x, c'⟩ <;> simp only [runOn, h] <;> rfl

@[simp] theorem run_on_ask (question : Directory → Except Fault α) (c : Controller) :
    (ask question).runOn c = ((question c.directory).mapError ofFault, c) := rfl

@[simp] theorem run_on_consult (query : Store → Except StoreError α) (c : Controller) :
    (consult query).runOn c = ((query c.store).mapError .store, c) := rfl

@[simp] theorem run_on_commit (t : Transaction ControllerError α) (c : Controller) :
    (commit t).runOn c = ((c.store.commit t).1, { c with store := (c.store.commit t).2 }) := rfl

theorem run_on_change_ok {f : Directory → Except Fault Directory} {c : Controller} {d : Directory}
    (h : f c.directory = .ok d) : (change f).runOn c = (.ok (), { c with directory := d }) := by
  rw [runOn, change, h]

theorem run_on_change_error {f : Directory → Except Fault Directory} {c : Controller} {e : Fault}
    (h : f c.directory = .error e) : (change f).runOn c = (.error (ofFault e), c) := by
  rw [runOn, change, h]

@[simp] theorem run_on_notify (n : Notice) (c : Controller) :
    (notify n).runOn c = (.ok (), { c with sent := c.sent ++ [n] }) := rfl

/-- The router with an id, which must be known. -/
def knownRouter (id : String) : Action Router := do
  match ← ask (·.router? id) with
  | some r => return r
  | none => throw (.routerNotFound id)

end Action

namespace Transaction

variable {α : Type}

/-- A change of the store as part of a request. -/
def inRequest (t : Transaction StoreError α) : Transaction ControllerError α := t.mapError .store

/-- A change of the store that places a router on an agent. -/
def placing (t : Transaction StoreError α) (router agent : String) :
    Transaction ControllerError α :=
  t.mapError fun e => .schedulingFailed router agent e.message

/-- Asks the directory inside a transaction, which fails with the question. -/
def asking (answer : Except Fault α) : Transaction ControllerError α := fun s =>
  (answer.mapError Action.ofFault).map fun a => (a, s)

end Transaction

end RouterBinding
