/-!
# What a hook yields

A hook is the function by which an identifier type checks or changes the values that it wraps.  It
yields the value to wrap or nothing, and it may fail or not.
-/

set_option autoImplicit false

namespace TypedIds

/-- What a hook yields. -/
inductive HookReturn where
  /-- The value to wrap. -/
  | value
  /-- Nothing; it only looks at the value. -/
  | unit
  /-- The value to wrap, or an error. -/
  | resultValue
  /-- Nothing, or an error. -/
  | resultUnit
  deriving Repr, DecidableEq, Inhabited

/-- Whether a hook may reject a value. -/
def HookReturn.isFallible : HookReturn → Bool
  | .resultValue | .resultUnit => true
  | .value | .unit => false

end TypedIds
