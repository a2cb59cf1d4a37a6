import TypedIds.Grammar.Pattern.Reader
import TypedIds.Grammar.Generics.Reader

/-!
# Reading signatures

A parameter is tried as a receiver first.  There is at most one receiver, and it is the first
parameter; what takes any number of arguments is the last.
-/

set_option autoImplicit false

namespace TypedIds.Grammar

open Reader

/-- A parameter, or the code of what takes any number of arguments. -/
inductive Parameter where
  | receiver (code : Code) (place : Span)
  | typed (pattern : Code) (ty : Ty)
  | variadic (code : Code)

/-- Parameters that have been read: themselves, whether a comma came last, and what takes any
number of arguments. -/
abbrev Params := List Param × Bool × Option Code

/-- The comma after what takes any number of arguments. -/
def variadicEnd (code : Code) : Reader Params := do
  if ← atEnd then return ([], true, some code)
  operator ","
  return ([], true, some (code ++ [.mark ',' false]))

/-- Whether a function begins, after the words that may stand before `fn`; one of these is `safe`
for a foreign function. -/
def startsFunction (foreign : Bool) (ts : List Tree) : Bool :=
  let skip := fun (ws : List String) (ts : List Tree) ↦
    if Ahead.oneOf ws ts then ts.drop 1 else ts
  let ts := skip (if foreign then ["unsafe", "safe"] else ["unsafe"])
    (skip ["async"] (skip ["const"] ts))
  let ts :=
    if Ahead.word "extern" ts then
      if Ahead.text (ts.drop 1) then ts.drop 2 else ts.drop 1
    else ts
  Ahead.word "fn" ts

namespace Nested

variable (r : Nested)

/-- A receiver, and the span of its `self`. -/
def receiver : Reader (Code × Span) := do
  let byReference ← operator? "&"
  let l ← if byReference then lifetimeCode? else pure []
  let mutable ← keywordCode? "mut"
  let place ← here
  keyword "self"
  if ← sees (Ahead.operator "::") then failHere .unfit
  let head := (if byReference then [Token.mark '&' false] else []) ++ l ++ mutable ++
    [.word "self"]
  if !byReference && (← sees (Ahead.operator ":")) then
    operator ":"
    return (head ++ .mark ':' false :: (← r.type true).code, place)
  else return (head, place)

/-- A parameter without its attributes. -/
def parameter : Reader Parameter := do
  match ← attempt r.receiver with
  | some (code, place) => return .receiver code place
  | none =>
    let ts ← rest
    if Ahead.name ts && Ahead.operator "<" (ts.drop 1) then
      return .typed [.word "_"] (← r.type true)
    let p ← r.pattern
    operator ":"
    if ← operator? "..." then return .variadic (p.code ++ .mark ':' false :: Code.op "...")
    return .typed p.code (← r.type true)

/-- Parameters to the end of the trees; `first` if none came before, `self` if a receiver did. -/
def paramsFor (first self : Bool) : (rounds : Nat) → Reader Params
  | 0 => do fail .tooDeep (← here)
  | n + 1 => do
    if ← atEnd then return ([], true, none)
    let attrs ← r.outerCode
    if ← operator? "..." then return ← variadicEnd (attrs ++ Code.op "...")
    match ← r.parameter with
    | .variadic code => variadicEnd (attrs ++ code)
    | .receiver code place =>
      if self then fail (.receiver true) place
      if !first then fail (.receiver false) place
      go n (.receiver (attrs ++ code)) true
    | .typed p t => go n (.typed attrs p t) self
where
  go (n : Nat) (p : Param) (self : Bool) : Reader Params := do
    if ← atEnd then return ([p], false, none)
    operator ","
    let (ps, trailing, v) ← paramsFor false self n
    return (p :: ps, trailing, v)

/-- A signature, and whether the word `safe` is in it, which only that of a foreign function may
have. -/
def signatureOf (foreign : Bool) : Reader (Signature × Bool) := do
  let isConst ← keyword? "const"
  let isAsync ← keyword? "async"
  let isUnsafe ← keyword? "unsafe"
  let isSafe ← if foreign && !isUnsafe then keyword? "safe" else pure false
  let abi ← abi
  keyword "fn"
  let (n, _) ← name
  let generics ← r.generics
  let (params, trailing, variadic) ←
    group .parens do r.paramsFor true false ((← rest).length + 1)
  let output ← if ← operator? "->" then pure (some (← r.type true)) else pure none
  let predicates ← r.whereClause?
  return ({ isConst, isAsync, isUnsafe, abi, name := n, generics, params, trailing, variadic,
            output, predicates }, isSafe)

/-- A signature. -/
def signature : Reader Signature := return (← r.signatureOf false).1

end Nested

end TypedIds.Grammar
