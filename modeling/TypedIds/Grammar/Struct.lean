import TypedIds.Grammar.Attribute
import TypedIds.Grammar.Generics

/-!
# Structs

A struct with its attributes one by one, since markers are looked for among them and taken away.
Its other parts are kept as code, together with what is asked about them: whether it is generic and
whether it has fields.
-/

set_option autoImplicit false

namespace TypedIds

/-- The fields of a struct. -/
inductive Fields where
  /-- No body at all. -/
  | unit
  /-- Fields in braces. -/
  | named (count : Nat) (code : Code) (span : Span)
  /-- Fields in parentheses. -/
  | unnamed (code : Code) (span : Span)
  deriving Inhabited

namespace Fields

/-- Whether there is nothing that could be a field. -/
def isEmpty : Fields → Bool
  | unit => true
  | named count _ _ => count == 0
  | unnamed .. => false

/-- The span of the fields with their delimiters. -/
def span : Fields → Span
  | unit => .nowhere
  | named _ _ s | unnamed _ s => s

/-- The code of the fields with their delimiters. -/
def code : Fields → Code
  | unit => []
  | named _ code _ | unnamed code _ => code

end Fields

/-- A struct. -/
structure Struct where
  attributes : List Attribute
  visibility : Code
  name : String
  generics : Generics
  /-- The predicates of the `where` clause. -/
  predicates : Option Code
  fields : Fields
  deriving Inhabited

namespace Struct

/-- The code of what follows the name and the generics. -/
def bodyCode (s : Struct) : Code :=
  match s.fields with
  | .unit => whereCode s.predicates ++ [.mark ';' false]
  | .named _ code _ => whereCode s.predicates ++ code
  | .unnamed code _ => code ++ whereCode s.predicates ++ [.mark ';' false]

/-- The code of a struct. -/
def code (s : Struct) : Code :=
  Attribute.codeAll s.attributes ++ s.visibility ++
    .word "struct" :: .word s.name :: s.generics.code ++ s.bodyCode

end Struct

end TypedIds
