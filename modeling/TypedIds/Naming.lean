import TypedIds.Diagnostic
import TypedIds.Text.Words
import TypedIds.Token.Name

/-!
# Naming

How generated members, types and units are named.  The accessor of a value is named after a property
by its snake case; the converter of a type is named after the type; a unit is named by its module
path, the type and the kind.

A type may have a raw name such as `r#type`.  No converter can be named after it, since the raw mark
would stand in front of a longer word.
-/

set_option autoImplicit false

namespace TypedIds

/-- Names that every identifier uses for its own members. -/
def reservedMembers : List String :=
  ["new", "unspecified", "is_unspecified", "into_parts", "check_value"]

/-- Whether a name is reserved for a generated member. -/
def isReserved (name : String) : Bool := reservedMembers.contains name

/-- The accessor named after a property. -/
def propertyName (property : String) : Except Problem String :=
  let snake := String.ofList (Text.snakeCase property.toList)
  if snake.isEmpty then .error .propertyEmpty
  else if isNameText snake then .ok snake
  else .error (.propertyInvalid snake)

/-- A word that is no name where one is needed.  It stops the whole expansion. -/
inductive NotAName where
  /-- The word that something generated was to be named by. -/
  | generated (word : String)
  /-- A type was to begin with the word; its reader has this problem there. -/
  | type (p : Problem)
  deriving Repr, DecidableEq

/-- How it is reported that a word is no name. -/
def NotAName.message : NotAName → String
  | generated w => String.ofList (Text.quoteText w.toList) ++ " is not a valid Ident"
  | type p => p.message

/-- The converter named after a type. -/
def converterName (type : String) : Except NotAName String :=
  let name := type ++ "Converter"
  if isRaw type then .error (.generated name) else .ok name

/-- The key of the unit that is generated for a type. -/
def unitKey (path : List String) (type : String) (kind : MarkerKind) : String :=
  String.join (path.map (· ++ ".")) ++ type ++ "_" ++ kind.unitSuffix

end TypedIds
