import RouterBinding.Binding.Store

/-!
# Repairs by the operator

The operator releases the SNAT binding of a router, with the host binding of its agent if asked to,
or drops every binding of an agent that is gone. Each repair is one transaction.
-/

namespace RouterBinding

/-- A SNAT binding that was released, and whether a host binding went with it. -/
structure Released where
  binding : SnatBinding
  hostDropped : Bool
  deriving DecidableEq

namespace Transaction

/-- Drops the SNAT binding of a router, of the scope if one is given, and with `dropHost` the host
binding of its agent. -/
def release (router : String) (scope : Option String) (dropHost : Bool) :
    Transaction StoreError (Option Released) := do
  match ← deleteSnat router scope with
  | none => return none
  | some b =>
    if dropHost then return some ⟨b, ← deleteHost ⟨router, b.agent⟩⟩
    else return some ⟨b, false⟩

end Transaction

end RouterBinding
