import TypedIds.Grammar.Expression
import TypedIds.Grammar.Item
import TypedIds.Grammar.Operator

/-!
# Readers of nested parts

Types, patterns, expressions, statements and items hold one another: an array type has an expression
for its length, a block holds items.  `Nested` is the record of the readers that such parts are read
with.  Every other reader takes it as its first argument, so each is defined on its own, and the
record is filled in at the end, to the depth that is needed.
-/

set_option autoImplicit false

namespace TypedIds.Grammar

open Reader

/-- The readers of what may hold parts of its own kind. -/
structure Nested where
  /-- A type; a trait object without `dyn` may have several bounds if `plus`. -/
  type : (plus : Bool) → Reader Ty
  /-- Arguments in angle brackets. -/
  arguments : Reader Args
  /-- A bound, which may be `use<…>` if `captures`, and may be `const` if `constants`. -/
  bound : (captures constants : Bool) → Reader Bound
  /-- A pattern without alternatives. -/
  pattern : Reader Pattern
  /-- What binary operators stand between; braces after a path are its fields if `structs`. -/
  operand : (structs : Bool) → Reader Expression
  /-- The operators after an expression that bind at least as tightly as `base`, with their
  operands. -/
  climb : (structs : Bool) → (base : Precedence) → Expression → Reader Expression
  /-- An expression that ends after a block, as in a statement. -/
  clause : Reader Expression
  /-- Statements to the end of the trees. -/
  statements : Reader Code
  /-- Fields in braces. -/
  namedFields : Reader Fields
  /-- An item with its attributes. -/
  item : Reader Item

namespace Nested

/-- Readers that fail at once. -/
def tooDeep : Nested :=
  let stop {α : Type} : Reader α := do fail .tooDeep (← here)
  { type := fun _ ↦ stop
    arguments := stop
    bound := fun _ _ ↦ stop
    pattern := stop
    operand := fun _ ↦ stop
    climb := fun _ _ _ ↦ stop
    clause := stop
    statements := stop
    namedFields := stop
    item := stop }

variable (r : Nested)

/-- An expression; braces after a path are its fields if `structs`. -/
def expressionWith (structs : Bool) : Reader Expression := do
  r.climb structs .least (← r.operand structs)

/-- An expression. -/
def expression : Reader Expression := r.expressionWith true

/-- An expression before a block, so that braces after a path are not its fields. -/
def condition : Reader Expression := r.expressionWith false

end Nested

end TypedIds.Grammar
