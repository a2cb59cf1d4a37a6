import TypedIds.Grammar.Type.Reader

/-!
# What follows an operand

Calls, fields, methods, indices and `?` come after the operand that they belong to and bind more
tightly than any operator.  A literal after a point may hold two numbers of fields: `x.0.1`.
-/

set_option autoImplicit false

namespace TypedIds.Grammar

open Reader

/-- A text cut at its points. -/
def cutAtPoints (cs : List Char) : List (List Char) :=
  match cs with
  | [] => [[]]
  | c :: rest =>
    match cutAtPoints rest with
    | [] => [[c]]
    | part :: parts => if c == '.' then [] :: part :: parts else (c :: part) :: parts

/-- The number of a field that a part of a literal spells. -/
def partIndex (part : List Char) (negative : Bool) : Except Problem Nat :=
  let text := String.ofList part
  match Tree.read text with
  | .error _ => .error .noTokens
  | .ok [.literal t _] => (indexOf t negative).mapError .fieldIndex
  | .ok (.literal _ _ :: _) => .error (.leftover none)
  | .ok _ => .error (.fieldIndex .noWholeNumber)

/-- The code of the fields that a literal with a point numbers, with a point between them, and
whether the literal ends with a point.  Only the first number can have a minus sign. -/
def fractionFields (text : String) (negative : Bool) : Except Problem (Code × Bool) := do
  let parts := cutAtPoints text.toList
  let open_ := parts.getLast? == some []
  let parts := if open_ then parts.dropLast else parts
  let first ← (parts.take 1).mapM (partIndex · negative)
  let more ← (parts.drop 1).mapM (partIndex · false)
  return (Code.separate [.mark '.' false] ((first ++ more).map indexCode), open_)

/-- Whether a literal is a number with a point or an exponent. -/
def isFraction (text : String) : Bool :=
  Ahead.isNumber text && (WholeLiteral.ofText? text).isNone

/-- The fields that a literal with a point numbers, and whether it ends with a point; `none` if no
such literal comes next. -/
def fraction? : Reader (Option (Code × Bool)) := do
  let read := fun (text : String) (negative : Bool) (s : Span) ↦
    if isFraction text then
      match fractionFields text negative with
      | .ok fields => do
        drop (if negative then 2 else 1)
        return some fields
      | .error p => fail p s
    else return none
  match ← rest with
  | .literal t s :: _ => read t false s
  | .mark '-' _ a :: .literal t b :: _ => read t true (a.to b)
  | _ => return none

/-- Whether a point comes next that is no range. -/
def startsPoint (ts : List Tree) : Bool := Ahead.operator "." ts && !Ahead.operator ".." ts

namespace Nested

variable (r : Nested)

/-- The arguments of a call. -/
def callArguments : Reader Code := do
  let (args, trailing) ← group .parens (commaList r.expression)
  return Code.within .parens (Code.commas (args.map Expression.code) trailing)

/-- What follows a point that is followed by no number with a point: `await`, a method, a field. -/
def memberAccess : Reader Code := do
  if ← keyword? "await" then return [.word "await"]
  let (member, isName) ← fieldName
  let turbofish ←
    if isName && (← sees (Ahead.operator "::")) then
      operator "::"
      pure (some (← r.argumentsAfter true))
    else pure none
  match turbofish with
  | some args => return member ++ args.code ++ (← r.callArguments)
  | none =>
    if isName && (← sees (Ahead.group .parens)) then return member ++ (← r.callArguments)
    else return member

/-- What follows the point after an operand. -/
def afterPoint : Reader Code := do
  operator "."
  match ← fraction? with
  | none => return .mark '.' false :: (← r.memberAccess)
  | some (fields, false) => return .mark '.' false :: fields
  | some (fields, true) =>
    return .mark '.' false :: fields ++ .mark '.' false :: (← r.memberAccess)

/-- What follows an operand, for as long as something does. -/
def trailersFor : (rounds : Nat) → Expression → Reader Expression
  | 0, _ => do fail .tooDeep (← here)
  | n + 1, e => do
    let ts ← rest
    if Ahead.group .parens ts then trailersFor n (e.followed (← r.callArguments))
    else if startsPoint ts && !e.isRange then trailersFor n (e.followed (← r.afterPoint))
    else if Ahead.group .brackets ts then
      let index ← group .brackets r.expression
      trailersFor n (e.followed (Code.within .brackets index.code))
    else if Ahead.operator "?" ts && !e.isRange then
      operator "?"
      trailersFor n (e.followed [.mark '?' false])
    else return e

/-- What follows an operand. -/
def trailers (e : Expression) : Reader Expression := do r.trailersFor ((← rest).length + 1) e

end Nested

end TypedIds.Grammar
