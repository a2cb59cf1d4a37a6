import TypedIds.Grammar.Fragment
import TypedIds.Grammar.Nested

/-!
# Reading attributes

What stands in the brackets of an attribute is read in full if it is a value, since a value is an
expression, and taken as it is if it is a list.
-/

set_option autoImplicit false

namespace TypedIds.Grammar

open Reader

/-- The path of an attribute. -/
def attributePath : Reader Path := do
  if ← keyword? "unsafe" then return Path.ofNames false [] "unsafe" else plainPath

/-- A literal after which nothing comes. -/
def lastLiteral : Reader Code := do
  let l ← literal
  if ← atEnd then return l else want [.literal]

namespace Nested

variable (r : Nested)

/-- The value of an attribute: a literal alone, or an expression that begins with no attribute. -/
def attributeValue : Reader Code := do
  match ← attempt lastLiteral with
  | some l => return l
  | none =>
    let ts ← rest
    if Ahead.operator "#" ts && Ahead.group .brackets (ts.drop 1) then
      fail .nestedAttribute (← here)
    return (← r.expression).code

/-- What follows the path of an attribute, the trees before it being `before`. -/
def attributeForm (before : List Tree) : Reader (AttributeForm × Code) := do
  match ← rest with
  | .group d inner s :: _ =>
    drop 1
    return (.list d inner s, Code.within d (Tree.codeAll inner))
  | .mark '=' joined s :: more =>
    if joined && (Ahead.operator "=" more || Ahead.operator ">" more) then return (.bare, [])
    drop 1
    let (value, taken) ← taking r.attributeValue
    return (.value s (Tree.spanAll (before ++ taken)), .mark '=' false :: value)
  | _ => return (.bare, [])

/-- An attribute after its marks, which are `signs`. -/
def attributeRest (signs : List Tree) : Reader Attribute := do
  let ((path, pathSpan, form, code), taken) ← taking (group .brackets do
    let (path, before) ← taking attributePath
    return (path, Tree.spanAll before, ← r.attributeForm before))
  let marks := signs.flatMap fun t ↦ match t with | .mark c _ _ => [.mark c false] | _ => []
  return ⟨path, pathSpan, form, Tree.spanAll (signs ++ taken),
    marks ++ Code.within .brackets (path.code ++ code)⟩

/-- An attribute before an item. -/
def outerAttribute : Reader Attribute := do
  let ((), signs) ← taking (operator "#")
  r.attributeRest signs

/-- An attribute at the beginning of a body. -/
def innerAttribute : Reader Attribute := do
  let ((), signs) ← taking (do operator "#"; operator "!")
  r.attributeRest signs

/-- All attributes before an item. -/
def outerAttributes : Reader (List Attribute) := many (Ahead.operator "#") r.outerAttribute

/-- All attributes at the beginning of a body. -/
def innerAttributes : Reader (List Attribute) :=
  many (fun ts ↦ Ahead.operator "#" ts && Ahead.operator "!" (ts.drop 1)) r.innerAttribute

/-- The code of all attributes before an item. -/
def outerCode : Reader Code := return Attribute.codeAll (← r.outerAttributes)

/-- The code of all attributes at the beginning of a body. -/
def innerCode : Reader Code := return Attribute.codeAll (← r.innerAttributes)

/-- A block in braces without attributes of its own. -/
def block : Reader Code := return Code.within .braces (← group .braces r.statements)

/-- A block in braces that begins with its attributes. -/
def body : Reader Code := do
  let inner ← group .braces do return (← r.innerCode) ++ (← r.statements)
  return Code.within .braces inner

end Nested

end TypedIds.Grammar
