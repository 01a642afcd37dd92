/-!
# Errors of the binding store

An error of the store is the step that failed and a detail in words. The only one that the store's
own rules cause is a duplicate: a router has at most one SNAT binding.
-/

namespace RouterBinding

/-- The step of the store that failed. -/
inductive StoreStep where
  | opening
  | transaction
  | table
  | read
  | write
  | serialize
  | deserialize
  | duplicate
  deriving DecidableEq

structure StoreError where
  step : StoreStep
  detail : String
  deriving DecidableEq

/-- What went wrong, before the detail. -/
def StoreStep.heading : StoreStep → String
  | .opening => "failed to open database"
  | .transaction => "transaction error"
  | .table => "table error"
  | .read => "read error"
  | .write => "write error"
  | .serialize => "serialization error"
  | .deserialize => "deserialization error"
  | .duplicate => "duplicate entry"

namespace StoreError

/-- The wording of an error; a row that does not decode is not described any further. -/
def message (e : StoreError) : String :=
  if e.step = .deserialize then e.step.heading else e.step.heading ++ ": " ++ e.detail

def isDuplicate (e : StoreError) : Bool := e.step = .duplicate

/-- A router that has a SNAT binding gets no second one. -/
def duplicateSnat (router : String) : StoreError :=
  ⟨.duplicate, "router " ++ router ++ " already has a SNAT binding"⟩

/-- A stored row is no text of a binding. -/
def undecodable : StoreError := ⟨.deserialize, "malformed row"⟩

end StoreError

end RouterBinding
