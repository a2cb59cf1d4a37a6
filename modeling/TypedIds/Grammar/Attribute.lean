import TypedIds.Grammar.Type

/-!
# Attributes

An attribute is a path with nothing, a list of trees, or a value after it.  The path consists of
plain names.  Outer attributes stand before an item, inner ones at the beginning of its body.
-/

set_option autoImplicit false

namespace TypedIds

/-- What follows the path of an attribute. -/
inductive AttributeForm where
  | bare
  /-- Trees between delimiters, and the span of the whole group. -/
  | list (d : Delimiter) (trees : List Tree) (span : Span)
  /-- A value; the span of the `=`, and from the path to the value. -/
  | value (sign whole : Span)
  deriving Inhabited

/-- An attribute. -/
structure Attribute where
  path : Path
  pathSpan : Span
  form : AttributeForm
  span : Span
  code : Code
  deriving Inhabited

/-- The code of some attributes. -/
def Attribute.codeAll (as : List Attribute) : Code := as.flatMap Attribute.code

end TypedIds
