import TypedIds.Grammar.Bound.Reader

/-!
# Reading types

What a type is, its first token tells; only parentheses and paths have to be read before it is
clear.  Where `+` may follow, a path or a parenthesised path may be the first bound of a trait
object.
-/

set_option autoImplicit false

namespace TypedIds.Grammar

open Reader

/-- What a type may begin with. -/
def typeStarts : List Wanted :=
  [.keyword "for", .group .parens, .keyword "fn", .keyword "unsafe", .keyword "extern", .name,
   .operator "::", .operator "<", .keyword "dyn", .group .brackets, .operator "*", .operator "&",
   .operator "!", .keyword "impl", .keyword "_", .lifetime]

/-- What may follow `for<…>` in a type. -/
def binderFollowers : List Wanted :=
  [.name, .keyword "fn", .keyword "unsafe", .keyword "extern", .keyword "super", .keyword "self",
   .keyword "Self", .keyword "crate"]

/-- What stands in parentheses where a type is wanted. -/
inductive Parenthesised where
  | tuple (elems : List Ty) (trailing : Bool)
  /-- A trait object that begins with a lifetime. -/
  | object (t : Ty)
  /-- A trait with a `?`. -/
  | relaxed (code : Code)
  | single (t : Ty)

/-- The bound that a type in parentheses is, if it can be the first one of a trait object.  There
is only one pair of parentheses around it. -/
def asBound? : Ty → Option Bound
  | .path rooted front last => some ⟨(Ty.path rooted front last).code, true, none⟩
  | .object false [b] false => some (if b.noTrait.isSome then b else { b with parens := true })
  | _ => none

/-- Whether an associated item may be given after a type: its name and arguments. -/
def associated? : Ty → Option Segment
  | .path false [] last => some last
  | _ => none

/-- Whether further arguments of any number come next, after their attributes. -/
def startsVariadic (ts : List Tree) : Bool :=
  Ahead.operator "..." ts ||
    (Ahead.name ts || Ahead.word "_" ts) && Ahead.operator ":" (ts.drop 1) &&
      Ahead.operator "..." (ts.drop 2)

/-- Further arguments of any number, with the comma after them. -/
def variadic : Reader Code := do
  let name ←
    if ← sees Ahead.anyWord then
      let (w, _) ← anyWord
      operator ":"
      pure [.word w, .mark ':' false]
    else pure []
  operator "..."
  return name ++ Code.op "..." ++ (← operatorCode? ",")

namespace Nested

variable (r : Nested)

/-! ## Arguments in angle brackets -/

/-- The value of an associated item. -/
def associatedValue : Reader Code := do
  let ts ← rest
  if Ahead.literal ts || Ahead.group .braces ts then r.constantArgument
  else return (← r.type true).code

/-- An argument in angle brackets. -/
def argument : Reader Arg := do
  let ts ← rest
  if Ahead.lifetime ts && !Ahead.operator "+" (ts.drop 1) then return .lifetime (← lifetime)
  if Ahead.literal ts || Ahead.group .braces ts then return .other (← r.constantArgument)
  let t ← r.type true
  match associated? t with
  | none => return .type t
  | some s =>
    if ← operator? "=" then
      return .other (s.code ++ .mark '=' false :: (← r.associatedValue))
    else if ← operator? ":" then
      let stop := fun ts ↦ Ahead.operator "," ts || Ahead.operator ">" ts
      return .other (s.code ++ .mark ':' false :: (← r.boundsUntil stop))
    else return .type t

/-- Arguments in angle brackets, after the `::` before them if there was one. -/
def argumentsAfter (turbofish : Bool) : Reader Args := do
  operator "<"
  let (args, trailing) ← separated (operator ",") (Ahead.operator ">") r.argument
  operator ">"
  return .angle turbofish args (trailing && !args.isEmpty)

/-- Arguments in angle brackets, with `::` before them or not. -/
def argumentsOf : Reader Args := do r.argumentsAfter (← operator? "::")

/-! ## Function pointers -/

/-- A parameter of a function pointer after its attributes; the first one may be `self`.  One with
`mut self` is kept as it is written. -/
def pointerParameter (first : Bool) : Reader Code := do
  let mutSelf := fun ts ↦ first && Ahead.word "mut" ts && Ahead.word "self" (ts.drop 1)
  let mutFirst ← sees mutSelf
  let (code, taken) ← taking do
    if mutFirst then drop 1
    let ts ← rest
    let isSelf := first && Ahead.word "self" ts
    let named := (Ahead.name ts || Ahead.word "_" ts || isSelf) &&
      Ahead.operator ":" (ts.drop 1) && !Ahead.operator "::" (ts.drop 1)
    let name ←
      if named then
        let (w, _) ← anyWord
        operator ":"
        pure [.word w, .mark ':' false]
      else pure []
    if !(named && isSelf) && (← sees mutSelf) then
      drop 2
      return none
    else if mutFirst && !named then
      keyword "self"
      return none
    else return some (name ++ (← r.type true).code)
  return if mutFirst then Tree.codeAll taken else code.getD (Tree.codeAll taken)

/-- The parameters of a function pointer, whether a comma came last, and further arguments. -/
def pointerParametersFor (first : Bool) :
    (rounds : Nat) → Reader (List Code × Bool × Option Code)
  | 0 => do fail .tooDeep (← here)
  | n + 1 => do
    if ← atEnd then return ([], true, none)
    let attrs ← r.outerCode
    if ← sees startsVariadic then return ([], true, some (attrs ++ (← variadic)))
    let p := attrs ++ (← r.pointerParameter first)
    if ← atEnd then return ([p], false, none)
    operator ","
    let (ps, trailing, v) ← pointerParametersFor false n
    return (p :: ps, trailing, v)

/-- The code of the parameters of a function pointer. -/
def pointerParameters : Reader Code := do
  let (ps, trailing, v) ← r.pointerParametersFor true ((← rest).length + 1)
  return Code.commas ps trailing ++ v.getD []

/-- A function pointer, after its `for<…>`. -/
def functionPointer : Reader Code := do
  let safety ← keywordCode? "unsafe"
  let convention ← abi
  keyword "fn"
  let params ← group .parens r.pointerParameters
  let head := safety ++ convention ++ .word "fn" :: Code.within .parens params
  if ← operator? "->" then return head ++ Code.op "->" ++ (← r.type false).code else return head

/-! ## Trait objects -/

/-- The bounds of a trait object that begins at `start`. -/
def objectOf (isDyn : Bool) (start : Span) (plus : Bool) : Reader Ty := do
  let (bs, trailing) ← r.boundList plus false false
  match lastNoTrait bs with
  | some s => fail (.noTrait false) (start.to s)
  | none => return .object isDyn bs trailing

/-- Further bounds of a trait object, for as long as a `+` goes on. -/
def plusBounds : Reader (List Bound) :=
  many (Ahead.operator "+") do operator "+"; r.bound false false

/-- A type that begins with `dyn`. -/
def dynType (plus : Bool) : Reader Ty := do
  let start ← here
  let ((star, t), taken) ← taking do
    keyword "dyn"
    let star ← operator? "*"
    return (star, ← r.objectOf true start plus)
  return if star then .other .verbatim (Tree.codeAll taken) else t

/-- A type that begins with `impl`. -/
def implType (plus : Bool) : Reader Ty := do
  let start ← here
  keyword "impl"
  let (bs, trailing) ← r.boundList plus true true
  match lastNoTrait bs with
  | some s => fail (.noTrait true) (start.to s)
  | none => return .other .implTrait (.word "impl" :: Bound.codeAll bs trailing)

/-! ## Parentheses and brackets -/

/-- What stands in parentheses where a type is wanted. -/
def parenthesised : Reader Parenthesised := do
  let ts ← rest
  if ts.isEmpty then return .tuple [] false
  if Ahead.lifetime ts then return .object (← r.objectOf false (← here) true)
  if Ahead.operator "?" ts then return .relaxed (← r.traitBound false).1
  let first ← r.type true
  if ← operator? "," then
    let (more, trailing) ← commaList (r.type true)
    return .tuple (first :: more) trailing
  else return .single first

/-- A type that begins with parentheses. -/
def parenType (plus : Bool) : Reader Ty := do
  match ← group .parens r.parenthesised with
  | .tuple elems trailing => return .tuple elems trailing
  | .object t => return .paren t
  | .relaxed code => return .object false (⟨code, true, none⟩ :: (← r.plusBounds)) false
  | .single t =>
    match asBound? t with
    | none => return .paren t
    | some b =>
      if plus && (← sees (Ahead.operator "+")) then
        return .object false (b :: (← r.plusBounds)) false
      else return .paren t

/-- A type in brackets. -/
def bracketType : Reader Ty :=
  group .brackets do
    let elem ← r.type true
    if ← operator? ";" then return .array elem (← r.expression).code else return .slice elem

/-! ## Paths -/

/-- A type that begins with a path, after its `for<…>`. -/
def pathType (lifetimes : Option Code) (plus : Bool) : Reader Ty := do
  let p ← r.path
  if p.isPlain && (← sees startsMacro) then
    let (_, args) ← macroRest
    return .other .macroCall (p.code ++ args)
  if lifetimes.isSome || plus && (← sees (Ahead.operator "+")) then
    let first : Bound := ⟨lifetimes.getD [] ++ p.code, false, none⟩
    if plus && (← sees (Ahead.operator "+")) then
      operator "+"
      if ← sees (startsBound false) then
        let (bs, trailing) ← r.boundList true false false
        return .object false (first :: bs) trailing
      else return .object false [first] true
    else return .object false [first] false
  return p.toTy

/-! ## Types -/

/-- A raw pointer. -/
def pointerType : Reader Ty := do
  operator "*"
  if !(← sees (Ahead.oneOf ["const", "mut"])) then want [.keyword "const", .keyword "mut"]
  let (w, _) ← anyWord
  return .other .rawPointer (.mark '*' false :: .word w :: (← r.type false).code)

/-- A reference. -/
def referenceType : Reader Ty := do
  operator "&"
  let l ← lifetime?
  let isMut ← keyword? "mut"
  return .reference l isMut (← r.type false)

/-- A type after its `for<…>`. -/
def typeAfter (lifetimes : Option Code) (plus : Bool) : Reader Ty := do
  let ts ← rest
  if Ahead.group .parens ts then r.parenType plus
  else if Ahead.oneOf ["fn", "unsafe", "extern"] ts then
    return .other .functionPointer (lifetimes.getD [] ++ (← r.functionPointer))
  else if startsBuiltIn ts then return .other .verbatim (lifetimes.getD [] ++ (← builtIn))
  else if Ahead.operator "<" ts then
    let (front, last) ← r.qualified true
    return .qualified front last
  else if startsPath ts then r.pathType lifetimes plus
  else if Ahead.word "dyn" ts then r.dynType plus
  else if Ahead.group .brackets ts then r.bracketType
  else if Ahead.operator "*" ts then r.pointerType
  else if Ahead.operator "&" ts then r.referenceType
  else if Ahead.operator "!" ts then
    operator "!"
    return .other .never [.mark '!' false]
  else if Ahead.word "impl" ts then r.implType plus
  else if Ahead.word "_" ts then
    let _ ← anyWord
    return .other .inferred [.word "_"]
  else if Ahead.lifetime ts then r.objectOf false (← here) true
  else want typeStarts

/-- A type; a trait object without `dyn` may have several bounds if `plus`. -/
def typeOf (plus : Bool) : Reader Ty := do
  let lifetimes ← r.binder?
  if lifetimes.isSome && !(← sees fun ts ↦ binderFollowers.any (Ahead.sees · ts)) then
    want binderFollowers
  r.typeAfter lifetimes plus

end Nested

end TypedIds.Grammar
