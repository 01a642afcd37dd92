/-!
# Request contexts

A request is made for a tenant, by an administrator, or both. An administrator sees everything, a
tenant what it owns.
-/

namespace RouterBinding

structure Context where
  tenant : Option String
  admin : Bool
  deriving DecidableEq

namespace Context

/-- An administrator that belongs to no tenant. -/
def administrator : Context := ⟨none, true⟩

/-- The same request with the sight of an administrator. -/
def elevated (ctx : Context) : Context := { ctx with admin := true }

/-- Whether what `owner` owns can be seen. -/
def canSee (ctx : Context) (owner : String) : Bool := ctx.admin || ctx.tenant = some owner

@[simp] theorem can_see_elevated (ctx : Context) (owner : String) :
    ctx.elevated.canSee owner = true := rfl

theorem can_see_of_admin {ctx : Context} (h : ctx.admin = true) (owner : String) :
    ctx.canSee owner = true := by simp [canSee, h]

end Context

end RouterBinding
