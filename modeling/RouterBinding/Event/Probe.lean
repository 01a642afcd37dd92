import RouterBinding.Event.Bus

/-!
# Probes

A probe is a subscriber that writes every event it is given to the journal. Besides, it may fail,
subscribe another probe, or publish the deletion of the port and write how that went.
-/

namespace RouterBinding

inductive Probe where
  | record
  | fail
  | subscribe
  | delete
  deriving DecidableEq

namespace Probe

/-- The name of the subscriber, the kind of the event, the port, and whether the hardware address
changed. -/
def line (name : String) (event : PortEvent) : String :=
  name ++ ":" ++ event.kind.name ++ ":" ++ event.port.id ++ ":" ++
    (if event.macUpdated then "true" else "false")

/-- How the deletion published by a probe went. -/
def nestedLine (name : String) : Except DispatchError Unit → String
  | .ok () => name ++ " nested ok"
  | .error e => name ++ " nested " ++ e.message

def recording (name : String) : Handler := fun _ event =>
  .write (line name event) (.finish (.ok ()))

def handler (name : String) : Probe → Handler
  | record => recording name
  | fail => fun _ event =>
    .write (line name event) (.finish (.error (.routerNotFound name)))
  | subscribe => fun _ event =>
    .write (line name event)
      (.subscribe event.kind (name ++ "+") (recording (name ++ "+")) (.finish (.ok ())))
  | delete => fun ctx event =>
    .write (line name event)
      (.publish ctx (.deleted event.port []) fun outcome =>
        .write (nestedLine name outcome) (.finish (.ok ())))

end Probe

end RouterBinding
