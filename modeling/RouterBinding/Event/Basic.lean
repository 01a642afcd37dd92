import RouterBinding.Controller.Presence

/-!
# Port events

A port event tells that a port was created, updated or deleted. The deletion of a port carries what
was found while the port was still there: the routers to be removed from its host.
-/

namespace RouterBinding

inductive EventKind where
  | afterCreate
  | afterUpdate
  | afterDelete
  deriving DecidableEq

def EventKind.name : EventKind → String
  | .afterCreate => "after_create"
  | .afterUpdate => "after_update"
  | .afterDelete => "after_delete"

inductive PortEvent where
  | created (port : Port)
  | updated (original port : Port)
  | deleted (port : Port) (removals : List Removal)
  deriving DecidableEq

namespace PortEvent

def kind : PortEvent → EventKind
  | created _ => .afterCreate
  | updated _ _ => .afterUpdate
  | deleted _ _ => .afterDelete

/-- The port as it is after the event, or as it was before its deletion. -/
def port : PortEvent → Port
  | created p => p
  | updated _ p => p
  | deleted p _ => p

/-- Whether the event changed the hardware address of the port. -/
def macUpdated : PortEvent → Bool
  | updated original p => original.mac ≠ p.mac
  | _ => false

end PortEvent

/-- The first subscriber that failed on an event. -/
structure DispatchError where
  subscriber : String
  kind : EventKind
  cause : ControllerError
  deriving DecidableEq

def DispatchError.message (e : DispatchError) : String :=
  "subscriber " ++ e.subscriber ++ " failed on " ++ e.kind.name ++ ": " ++ e.cause.message

end RouterBinding
