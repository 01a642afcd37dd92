import RouterBinding.Binding.Error

/-!
# Errors of the controller

What stops a request to the controller. That there is nothing to do, or nobody to do it, is an
outcome of a request and no error.
-/

namespace RouterBinding

inductive ControllerError where
  | routerNotFound (router : String)
  | schedulingFailed (router agent reason : String)
  | store (error : StoreError)
  /-- The directory did not answer, in its own words. -/
  | directory (reason : String)
  deriving DecidableEq

def ControllerError.message : ControllerError → String
  | .routerNotFound router => "router not found: " ++ router
  | .schedulingFailed router agent reason =>
    "failed scheduling router " ++ router ++ " to L3 agent " ++ agent ++ ": " ++ reason
  | .store error => "state store error: " ++ error.message
  | .directory reason => "collaborator error: " ++ reason

end RouterBinding
