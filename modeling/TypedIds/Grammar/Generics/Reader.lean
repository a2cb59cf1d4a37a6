import TypedIds.Grammar.Generics
import TypedIds.Grammar.Path.Reader

/-!
# Reading generics

Parameters in angle brackets, as they follow the name of an item or a `for`, the bounds of a
parameter, and `where` clauses.  A list of bounds ends where no `+` follows, or at a place that
depends on where the list stands.
-/

set_option autoImplicit false

namespace TypedIds.Grammar

open Reader

/-- Whether a parameter ends here. -/
def endsParam (ts : List Tree) : Bool :=
  ts.isEmpty || Ahead.operator "," ts || Ahead.operator ">" ts

/-- Whether a predicate of a `where` clause ends here. -/
def endsPredicate (ts : List Tree) : Bool :=
  ts.isEmpty || Ahead.group .braces ts || Ahead.operator "," ts || Ahead.operator ";" ts ||
    (Ahead.operator ":" ts && !Ahead.operator "::" ts) || Ahead.operator "=" ts

/-- Whether generic parameters, and no qualified path, begin here. -/
def startsGenerics (ts : List Tree) : Bool :=
  let second := ts.drop 1
  let third := ts.drop 2
  Ahead.operator "<" ts &&
    (Ahead.operator ">" second || Ahead.operator "#" second ||
      (Ahead.lifetime second || Ahead.name second) &&
        (Ahead.operator ">" third || Ahead.operator "," third ||
          Ahead.operator ":" third && !Ahead.operator "::" third || Ahead.operator "=" third) ||
      Ahead.word "const" second)

/-- The bounds of a lifetime after its `:`, until `stop` holds. -/
def lifetimeBounds (stop : List Tree → Bool) : (rounds : Nat) → Reader Code
  | 0 => do fail .tooDeep (← here)
  | n + 1 => do
    if ← sees stop then return []
    let l ← lifetime
    if ← operator? "+" then
      return .lifetime l :: .mark '+' false :: (← lifetimeBounds stop n)
    else return [.lifetime l]

/-- Code after a `:`, which is not written if the code is empty. -/
def afterColon (c : Code) : Code := if c.isEmpty then [] else .mark ':' false :: c

/-- A parameter that is a lifetime, after its attributes. -/
def lifetimeParam (attrs : Code) : Reader GenericParam := do
  let l ← lifetime
  let bounds ←
    if ← operator? ":" then lifetimeBounds endsParam ((← rest).length + 1) else pure []
  return ⟨true, attrs ++ .lifetime l :: afterColon bounds⟩

namespace Nested

variable (r : Nested)

/-! ## Bounds -/

/-- Bounds with `+` between them, until `stop` holds or no `+` follows; whether one came last. -/
def boundsFor (stop : List Tree → Bool) : (rounds : Nat) → Reader (List Bound × Bool)
  | 0 => do fail .tooDeep (← here)
  | n + 1 => do
    if ← sees stop then return ([], true)
    let b ← r.bound false true
    if ← operator? "+" then
      let (bs, trailing) ← boundsFor stop n
      return (b :: bs, trailing)
    else return ([b], false)

/-- The code of bounds, until `stop` holds or no `+` follows. -/
def boundsUntil (stop : List Tree → Bool) : Reader Code := do
  let (bs, trailing) ← r.boundsFor stop ((← rest).length + 1)
  return Bound.codeAll bs trailing

/-- The code of bounds up to a place where `stop` holds, `+` being the only thing between them. -/
def boundsTo (constants : Bool) (stop : List Tree → Bool) : Reader Code := do
  let (bs, trailing) ← separated (operator "+") stop (r.bound false constants)
  return Bound.codeAll bs trailing

/-! ## Parameters -/

/-- A constant in angle brackets: a literal, a name or a block. -/
def constantArgument : Reader Code := do
  let ts ← rest
  if Ahead.literal ts then literal
  else if Ahead.name ts then return [.word (← name).1]
  else if Ahead.group .braces ts then r.body
  else failHere .unfit

/-- A parameter that is a type, after its attributes. -/
def typeParam (attrs : Code) : Reader GenericParam := do
  let (n, _) ← name
  let bounds ←
    if ← operator? ":" then r.boundsUntil fun ts ↦ endsParam ts || Ahead.operator "=" ts
    else pure []
  let value ← if ← operator? "=" then pure (.mark '=' false :: (← r.type true).code) else pure []
  return ⟨false, attrs ++ .word n :: afterColon bounds ++ value⟩

/-- A parameter that is a constant, after its attributes. -/
def constantParam (attrs : Code) : Reader GenericParam := do
  keyword "const"
  let (n, _) ← name
  operator ":"
  let t ← r.type true
  let value ←
    if ← operator? "=" then pure (.mark '=' false :: (← r.constantArgument)) else pure []
  return ⟨false, attrs ++ .word "const" :: .word n :: .mark ':' false :: t.code ++ value⟩

/-- A generic parameter of an item, or one of a `for<…>` if `bound`. -/
def genericParam (bound : Bool) : Reader GenericParam := do
  let attrs ← r.outerCode
  let ts ← rest
  if Ahead.lifetime ts then lifetimeParam attrs
  else if Ahead.name ts then r.typeParam attrs
  else if Ahead.word "const" ts then r.constantParam attrs
  else if !bound && Ahead.word "_" ts then
    let _ ← anyWord
    return ⟨false, attrs ++ [.word "_"]⟩
  else if bound then want [.name, .lifetime, .keyword "const"]
  else want [.lifetime, .name, .keyword "const"]

/-- Generic parameters in their brackets, and whether a comma came last. -/
def genericParams (bound : Bool) : Reader (List GenericParam × Bool) := do
  operator "<"
  let params ← separated (operator ",") (Ahead.operator ">") (r.genericParam bound)
  operator ">"
  return params

/-- `for<…>`, if it is there. -/
def binder? : Reader (Option Code) := do
  if ← keyword? "for" then
    let (params, trailing) ← r.genericParams true
    return some (.word "for" :: Code.angle (Code.commas (params.map GenericParam.code) trailing))
  else return none

/-- Generic parameters in angle brackets, if there are any brackets. -/
def generics : Reader Generics := do
  if ← sees (Ahead.operator "<") then
    let ((params, trailing), taken) ← taking (r.genericParams false)
    return ⟨params, trailing, if params.isEmpty then .nowhere else Tree.spanAll taken⟩
  else return .none

/-! ## Clauses -/

/-- A predicate of a `where` clause. -/
def predicate : Reader Code := do
  let ts ← rest
  if Ahead.lifetime ts && Ahead.operator ":" (ts.drop 1) then
    let l ← lifetime
    operator ":"
    let ends := fun ts ↦ endsPredicate ts || Ahead.operator ":" ts
    return .lifetime l :: .mark ':' false :: (← lifetimeBounds ends (ts.length + 1))
  else
    let lifetimes ← r.binder?
    let t ← r.type true
    operator ":"
    return lifetimes.getD [] ++ t.code ++ .mark ':' false :: (← r.boundsUntil endsPredicate)

/-- The predicates of a `where` clause with commas between them. -/
def predicates : (rounds : Nat) → Reader Code
  | 0 => do fail .tooDeep (← here)
  | n + 1 => do
    if ← sees endsPredicate then return []
    let p ← r.predicate
    if ← operator? "," then return p ++ .mark ',' false :: (← predicates n) else return p

/-- The predicates of a `where` clause, if it is there. -/
def whereClause? : Reader (Option Code) := do
  if ← keyword? "where" then
    if ← sees startsGenerics then fail .whereGenerics (← here)
    return some (← r.predicates ((← rest).length + 1))
  else return none

end Nested

end TypedIds.Grammar
