import TypedIds.Grammar.Generics.Reader

/-!
# Reading bounds

A bound is a lifetime, `use<…>`, or a trait, in parentheses or not.  A trait may have a `for<…>`, a
`?`, and the arguments of a function trait in parentheses.  Whether `use<…>` and `const` are allowed
depends on where the bound stands; a `const` bound is kept as it is written.
-/

set_option autoImplicit false

namespace TypedIds.Grammar

open Reader

/-- A parameter of `use<…>`, and whether it is a lifetime. -/
def capturedParam : Reader (Bool × Code) := do
  let ts ← rest
  if Ahead.lifetime ts then return (true, [.lifetime (← lifetime)])
  else if Ahead.name ts || Ahead.word "Self" ts then return (false, [.word (← anyWord).1])
  else want [.lifetime, .name, .operator ">"]

/-- What may stand after a parameter of `use<…>`. -/
def captureSeparator : Reader Unit := do
  if ← sees (Ahead.operator ",") then operator "," else want [.operator ",", .operator ">"]

/-- A `use<…>`. -/
def capture : Reader Code := do
  keyword "use"
  operator "<"
  let (params, trailing) ← separated captureSeparator (Ahead.operator ">") capturedParam
  operator ">"
  return .word "use" :: Code.angle (Code.lifetimesFirst params trailing)

/-- Whether another bound follows a `+`. -/
def startsBound (constants : Bool) (ts : List Tree) : Bool :=
  Ahead.anyWord ts || Ahead.operator "::" ts || Ahead.operator "?" ts || Ahead.lifetime ts ||
    Ahead.group .parens ts || (constants && Ahead.group .brackets ts)

/-- The end of the last bound that is no trait, if no bound is a trait. -/
def lastNoTrait (bs : List Bound) : Option Span :=
  if bs.any (·.noTrait.isNone) then none else (bs.filterMap Bound.noTrait).getLast?

namespace Nested

variable (r : Nested)

/-- What a function trait takes, in parentheses, and what it yields. -/
def functionArguments : Reader Code := do
  let (inputs, trailing) ← group .parens (commaList (r.type true))
  let args := Code.within .parens (Code.commas (inputs.map Ty.code) trailing)
  if ← operator? "->" then return args ++ Code.op "->" ++ (← r.type false).code else return args

/-- The `const` or `[const]` before a trait, if there is one. -/
def constMark (constants : Bool) : Reader Bool := do
  if ← sees (Ahead.group .brackets) then
    let ((), taken) ← taking (group .brackets (keyword "const"))
    if !constants then fail (.notAllowed "`[const]`") (Tree.spanAll taken)
    return true
  else if ← sees (Ahead.word "const") then
    let (_, s) ← anyWord
    if !constants then fail (.notAllowed "`const`") s
    return true
  else return false

/-- The path of a trait in a bound, with the arguments of a function trait.  Empty angle brackets
before these are left out. -/
def traitPath : Reader Code := do
  let p ← r.path
  let ts ← rest
  if p.last.args.isEmpty &&
      (Ahead.group .parens ts || Ahead.operator "::" ts && Ahead.group .parens (ts.drop 2)) then
    let _ ← operator? "::"
    let args ← r.functionArguments
    return Path.code { p with last := ⟨p.last.name, .none⟩ } ++ args
  else return p.code

/-- A trait in a bound, and whether it is a constant one. -/
def traitBound (constants : Bool) : Reader (Code × Bool) := do
  let lifetimes ← r.binder?
  let isConst ← constMark constants
  let place ← here
  let relaxed ← operator? "?"
  let later ← if lifetimes.isNone && relaxed then r.binder? else pure none
  let binder := lifetimes.or later
  let path ← r.traitPath
  if relaxed && binder.isSome then fail .relaxedBinder place
  return ((if relaxed then [.mark '?' false] else []) ++ binder.getD [] ++ path, isConst)

/-- A bound that is a trait. -/
def traitBoundOf (constants : Bool) : Reader Bound := do
  let parens ← sees (Ahead.group .parens)
  let ((code, isConst), taken) ← taking do
    if parens then group .parens (r.traitBound constants) else r.traitBound constants
  if isConst then return ⟨Tree.codeAll taken, false, none⟩ else return ⟨code, parens, none⟩

/-- A bound. -/
def boundOf (captures constants : Bool) : Reader Bound := do
  match ← rest with
  | .lifetime n _ s :: _ => drop 1; return ⟨[.lifetime n], false, some s⟩
  | .word "use" start :: _ =>
    let (code, taken) ← taking capture
    let stop := (taken.getLast?.map Tree.span).getD start
    if !captures then fail (.notAllowed "`use<...>` precise capturing syntax") (start.to stop)
    return ⟨code, false, some stop⟩
  | _ => r.traitBoundOf constants

/-- Bounds with `+` between them, only one if no `+` may follow; whether a `+` came last. -/
def boundListFor (plus captures constants : Bool) : (rounds : Nat) → Reader (List Bound × Bool)
  | 0 => do fail .tooDeep (← here)
  | n + 1 => do
    let b ← r.bound captures constants
    if plus && (← sees (Ahead.operator "+")) then
      operator "+"
      if ← sees (startsBound constants) then
        let (bs, trailing) ← boundListFor plus captures constants n
        return (b :: bs, trailing)
      else return ([b], true)
    else return ([b], false)

/-- Bounds with `+` between them, only one if no `+` may follow; whether a `+` came last. -/
def boundList (plus captures constants : Bool) : Reader (List Bound × Bool) := do
  r.boundListFor plus captures constants ((← rest).length + 1)

end Nested

end TypedIds.Grammar
