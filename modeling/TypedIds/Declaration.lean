import TypedIds.Default
import TypedIds.Hook
import TypedIds.Naming

/-!
# Declarations

A declaration is all that generated code depends on: the kind, the struct without its marker, the
components, the options, the hook and, for a combined identifier, the unspecified value of each
component.
-/

set_option autoImplicit false

namespace TypedIds

/-- The declaration of an identifier. -/
structure Declaration where
  kind : MarkerKind
  /-- The struct without markers. -/
  item : Struct
  components : List Component
  options : Options
  hook : Option Hook
  /-- One for each component of a combined identifier; none for a scalar one. -/
  defaults : List ComponentDefault
  deriving Inhabited

namespace Declaration

/-- The name of the identifier. -/
def name (d : Declaration) : String := d.item.name

/-- Whether the constructor may fail. -/
def isFallible (d : Declaration) : Bool := d.hook.any (·.returns.isFallible)

/-- The component of a scalar identifier.  A scalar declaration that is accepted has exactly one
component (`Accepted.prepared`), so what stands for a missing one here is never used. -/
def scalar (d : Declaration) : Component := d.components.headD (scalarComponent d.kind d.options)

/-- The types of the components. -/
def types (d : Declaration) : List Ty := d.components.map Component.ty

/-- The names of the components. -/
def names (d : Declaration) : List String := d.components.map Component.name

/-- The type of the wrapped value: that of the component, or the tuple of them. -/
def valueType (d : Declaration) : Code :=
  if d.kind.isScalar then d.scalar.ty.code
  else Code.within .parens (Code.terminate [.mark ',' false] (d.types.map Ty.code))

end Declaration

end TypedIds
