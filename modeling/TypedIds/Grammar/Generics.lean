import TypedIds.Grammar.Type

/-!
# Generics

The parameters of a generic item in angle brackets, and the `where` clause.  Written out, lifetimes
come before the other parameters, and neither empty brackets nor an empty clause are written.
-/

set_option autoImplicit false

namespace TypedIds

/-- A generic parameter. -/
structure GenericParam where
  isLifetime : Bool
  code : Code
  deriving Repr, DecidableEq, Inhabited

/-- The parameters of a generic item. -/
structure Generics where
  params : List GenericParam
  trailing : Bool
  /-- From `<` to `>`. -/
  span : Span
  deriving Repr, DecidableEq, Inhabited

namespace Generics

/-- No parameters. -/
def none : Generics := ⟨[], false, .nowhere⟩

/-- Whether there are no parameters. -/
def isEmpty (g : Generics) : Bool := g.params.isEmpty

/-- The code of the parameters in their brackets. -/
def code (g : Generics) : Code :=
  if g.isEmpty then []
  else
    Code.angle (Code.lifetimesFirst (g.params.map fun p ↦ (p.isLifetime, p.code)) g.trailing)

end Generics

/-- The code of a `where` clause, given that of its predicates. -/
def whereCode : Option Code → Code
  | some (t :: ts) => .word "where" :: t :: ts
  | _ => []

end TypedIds
