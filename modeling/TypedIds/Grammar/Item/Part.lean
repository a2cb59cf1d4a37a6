import TypedIds.Grammar.Signature.Reader
import TypedIds.Grammar.Statement.Reader
import TypedIds.Grammar.Struct.Reader

/-!
# Parts that several items share

Constants, names for types and macros stand in modules, in blocks of members, in traits and in
foreign blocks, with small differences.  What can be read but has no meaning at its place is kept as
it is written, so a reader of such an item yields nothing for it.
-/

set_option autoImplicit false

namespace TypedIds.Grammar

open Reader

/-- The code of an item, which is kept as it is written if the reader yields none. -/
def orWritten (p : Reader (Option Code)) : Reader Code := do
  let (code, taken) ← taking p
  return code.getD (Tree.codeAll taken)

/-- The semicolon after a macro, unless it is given braces. -/
def macroEnd (d : Delimiter) : Reader Code := if d = .braces then return [] else semicolon

/-- The call of a macro in place of a member. -/
def memberMacro : Reader Code := do
  let path ← plainPath
  let (d, args) ← macroRest
  return path.code ++ args ++ (← macroEnd d)

/-- The name of a constant, which may be `_`. -/
def constantName : Reader String := do
  let ts ← rest
  if Ahead.name ts || Ahead.word "_" ts then return (← anyWord).1
  else want [.name, .keyword "_"]

/-- What follows the name of a constant. -/
structure ConstantRest where
  code : Code
  hasValue : Bool
  /-- Whether there are neither generics nor a `where` clause. -/
  isPlain : Bool

/-- An item that names a type. -/
structure TypeName where
  name : String
  generics : Generics
  /-- The bounds, and whether there is a `:` before them. -/
  bounds : Code
  hasColon : Bool
  predicates : Option Code
  value : Option Ty

/-- Where the `where` clause of an item that names a type may stand, as seen from the `=`. -/
inductive ClausePlace where
  | before
  | after
  | either
  deriving DecidableEq

namespace TypeName

/-- The code of the name and the generics. -/
def head (t : TypeName) : Code := .word "type" :: .word t.name :: t.generics.code

/-- The code of the type that is named. -/
def valueCode (t : TypeName) : Code :=
  match t.value with
  | some v => .mark '=' false :: v.code
  | none => []

/-- The code of the `where` clause. -/
def clauseCode (t : TypeName) : Code := whereCode t.predicates

end TypeName

namespace Nested

variable (r : Nested)

/-- What follows the name of a constant. -/
def constantRest : Reader ConstantRest := do
  let ts ← rest
  let _ ← r.generics
  operator ":"
  let t ← r.type true
  let hasValue ← operator? "="
  let value ← if hasValue then pure (.mark '=' false :: (← r.expression).code) else pure []
  let clause ← r.whereClause?
  let stop ← semicolon
  return ⟨.mark ':' false :: t.code ++ value ++ stop, hasValue,
    !Ahead.operator "<" ts && clause.isNone⟩

/-- An item that names a type. -/
def typeName (place : ClausePlace) : Reader TypeName := do
  keyword "type"
  let (n, _) ← name
  let generics ← r.generics
  let hasColon ← operator? ":"
  let stop := fun ts ↦
    Ahead.word "where" ts || Ahead.operator "=" ts || Ahead.operator ";" ts
  let bounds ← if hasColon then r.boundsTo true stop else pure []
  let early ← if place = .after then pure none else r.whereClause?
  let value ← if ← operator? "=" then pure (some (← r.type true)) else pure none
  let late ← if place = .before || early.isSome then pure none else r.whereClause?
  operator ";"
  return ⟨n, generics, bounds, hasColon, early.or late, value⟩

end Nested

end TypedIds.Grammar
