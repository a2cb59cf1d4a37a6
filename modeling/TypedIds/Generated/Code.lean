import TypedIds.Generated.Combined
import TypedIds.Generated.Scalar

/-!
# The code of a declaration

All items that are generated for a declaration.  That of a scalar identifier needs a converter,
which is named after the type; a raw name has none, and then there is no code.
-/

set_option autoImplicit false

namespace TypedIds

/-- The items that are generated for a declaration. -/
def Declaration.items (d : Declaration) : Except NotAName (List Generated.Item) :=
  if d.kind.isScalar then (converterName d.name).map (Generated.Scalar.items d)
  else .ok (Generated.Combined.items d)

/-- The code that is generated for a declaration. -/
def Declaration.code (d : Declaration) : Except NotAName Code := d.items.map Generated.Item.codeAll

end TypedIds
