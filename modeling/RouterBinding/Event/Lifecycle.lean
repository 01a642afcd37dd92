import RouterBinding.Event.Reactions

/-!
# The life of a port

Creating, updating and deleting a port change the directory and publish the event that tells of it.
Before a port is deleted, what its deletion will remove is found while it is still there.
-/

namespace RouterBinding.Exchange

/-- How deep events may be published inside others unless it is said otherwise. -/
def usualNesting : Nat := 64

/-- Runs a request to the controller. -/
def request {α : Type} (action : Action α) (x : Exchange) : Except ControllerError α × Exchange :=
  let (answer, c) := action.runOn x.controller
  (answer, { x with controller := c })

/-- Changes the directory. -/
def changeDirectory (f : Directory → Directory) (x : Exchange) : Exchange :=
  { x with controller := { x.controller with directory := f x.controller.directory } }

def createPort (nesting : Nat) (ctx : Context) (port : Port) (x : Exchange) :
    Outcome (Except DispatchError Unit) :=
  publish nesting ctx (.created port) (x.changeDirectory (·.putPort port))

/-- Replaces the port `original` by a port under the same id. -/
def updatePort (nesting : Nat) (ctx : Context) (original port : Port) (x : Exchange) :
    Outcome (Except DispatchError Unit) :=
  publish nesting ctx (.updated original port) (x.changeDirectory (·.putPort port))

/-- Deletes a port: the removals found before, and the outcome of the event. Where they cannot be
found the port stays. -/
def deletePort (nesting : Nat) (ctx : Context) (port : Port) (x : Exchange) :
    Outcome (Except ControllerError (List Removal × Except DispatchError Unit)) :=
  match x.request (Controller.prepareDelete ctx port) with
  | (.error e, x) => some (.error e, x)
  | (.ok removals, x) =>
    (publish nesting ctx (.deleted port removals)
      (x.changeDirectory (·.removePort port.id))).map fun (outcome, x) =>
        (.ok (removals, outcome), x)

end RouterBinding.Exchange
