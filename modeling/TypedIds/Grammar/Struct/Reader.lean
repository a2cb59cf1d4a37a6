import TypedIds.Grammar.Generics.Reader
import TypedIds.Grammar.Struct

/-!
# Reading structs

Fields with their attributes and types, and structs.  A field without a name may be a struct or a
union of its own, whose fields are kept as they are written.
-/

set_option autoImplicit false

namespace TypedIds.Grammar

open Reader

namespace Nested

variable (r : Nested)

/-- The type of a field with a name, or of one that has only `_` for its name. -/
def fieldType (unnamed : Bool) : Reader Code := do
  let ts ← rest
  if unnamed &&
      (Ahead.word "struct" ts || Ahead.word "union" ts && Ahead.group .braces (ts.drop 1)) then
    let (_, taken) ← taking do
      drop 1
      r.namedFields
    return Tree.codeAll taken
  else return (← r.type true).code

/-- A field with a name. -/
def namedField : Reader Code := do
  let attrs ← r.outerCode
  let vis ← visibility
  let unnamed ← sees (Ahead.word "_")
  let (n, _) ← if unnamed then anyWord else name
  operator ":"
  return attrs ++ vis ++ .word n :: .mark ':' false :: (← r.fieldType unnamed)

/-- A field without a name. -/
def unnamedField : Reader Code := do
  let attrs ← r.outerCode
  let vis ← visibility
  return attrs ++ vis ++ (← r.type true).code

/-- Fields in braces. -/
def namedFieldsOf : Reader Fields := do
  let ((fields, trailing), taken) ← taking (group .braces (commaList r.namedField))
  return .named fields.length (Code.within .braces (Code.commas fields trailing))
    (Tree.spanAll taken)

/-- Fields in parentheses. -/
def unnamedFields : Reader Fields := do
  let ((fields, trailing), taken) ← taking (group .parens (commaList r.unnamedField))
  return .unnamed (Code.within .parens (Code.commas fields trailing)) (Tree.spanAll taken)

/-- The `where` clause and the fields of a struct, with what ends it. -/
def structBody : Reader (Option Code × Fields) := do
  let clause ← r.whereClause?
  let ts ← rest
  let first := if clause.isNone then [Wanted.keyword "where", .group .parens] else []
  if clause.isNone && Ahead.group .parens ts then
    let fields ← r.unnamedFields
    let clause ← r.whereClause?
    if ← operator? ";" then return (clause, fields)
    else want ((if clause.isNone then [Wanted.keyword "where"] else []) ++ [.operator ";"])
  else if Ahead.group .braces ts then return (clause, ← r.namedFields)
  else if ← operator? ";" then return (clause, .unit)
  else want (first ++ [.group .braces, .operator ";"])

/-- A struct after its attributes. -/
def structAfter (attributes : List Attribute) : Reader Struct := do
  let visibility ← visibility
  keyword "struct"
  let (n, _) ← name
  let generics ← r.generics
  let (predicates, fields) ← r.structBody
  return { attributes, visibility, name := n, generics, predicates, fields }

/-- A struct. -/
def struct : Reader Struct := do r.structAfter (← r.outerAttributes)

end Nested

end TypedIds.Grammar
