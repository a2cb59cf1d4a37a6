import TypedIds.Token.Basic

/-!
# The three kinds of identifiers

An identifier wraps a UUID, a text, or a tuple of named components.  A struct is declared to be one
by a marker, an attribute whose name tells the kind.  The first two kinds are called scalar.
-/

set_option autoImplicit false

namespace TypedIds

/-- What an identifier wraps. -/
inductive MarkerKind where
  /-- A UUID. -/
  | guid
  /-- A text. -/
  | string
  /-- A tuple of named components. -/
  | combined
  deriving Repr, DecidableEq, Inhabited

namespace MarkerKind

/-- All kinds. -/
def all : List MarkerKind := [guid, string, combined]

/-- The name of the marker. -/
def attributeName : MarkerKind → String
  | guid => "guid_id"
  | string => "string_id"
  | combined => "combined_id"

/-- The kind that a marker's name tells. -/
def ofAttributeName? (name : String) : Option MarkerKind := all.find? (·.attributeName == name)

/-- How the key of a generated unit ends. -/
def unitSuffix : MarkerKind → String
  | guid => "GuidId"
  | string => "StringId"
  | combined => "CombinedId"

/-- Whether the identifier wraps a single value. -/
def isScalar : MarkerKind → Bool
  | combined => false
  | _ => true

@[simp] theorem ofAttributeName?_attributeName (k : MarkerKind) :
    ofAttributeName? k.attributeName = some k := by
  cases k <;> rfl

end MarkerKind

end TypedIds
