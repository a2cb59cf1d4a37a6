import TypedIds.Grammar.Item.Part

/-!
# Reading blocks of members

A block of members begins with `impl`, a type or a trait for a type, and holds functions, constants,
types and macros.  A function without body, a constant or a type without value, and one that is
generic where it cannot be, are kept as they are written.  So is a block with a visibility or a
`const`, or one of a trait that is no path.
-/

set_option autoImplicit false

namespace TypedIds.Grammar

open Reader

/-- What the next member may be, after a visibility and `default`. -/
def memberStarts (isDefault plain : Bool) : List Wanted :=
  (if isDefault then [] else [Wanted.keyword "default"]) ++
    [.keyword "fn", .keyword "const", .keyword "type"] ++ (if plain then macroStarts else [])

/-- The visibility of a member and perhaps `default`, as code. -/
def memberWords (isDefault : Bool) : Reader Code := do
  let vis ← visibility
  if isDefault then return vis ++ (← keywordCode "default") else return vis

/-- What stands before the body of a block of members. -/
structure BlockHead where
  /-- Whether the block is an item of no known meaning. -/
  isStrange : Bool
  /-- Whether the members are those of a trait. -/
  ofTrait : Bool
  selfType : Ty
  code : Code

namespace Nested

variable (r : Nested)

/-! ## Members -/

/-- A function with a body, after its attributes. -/
def memberFunction (attrs : Code) (isDefault : Bool) : Reader (Option (Member × Code)) := do
  let vis ← visibility
  let words ← if isDefault then keywordCode "default" else pure []
  let signature ← r.signature
  if ← operator? ";" then return none
  let body ← r.body
  return some (.method ⟨vis, signature⟩, attrs ++ vis ++ words ++ signature.code ++ body)

/-- A constant with a value, after its attributes. -/
def memberConstant (attrs : Code) (isDefault : Bool) : Reader (Option (Member × Code)) := do
  let words ← memberWords isDefault
  keyword "const"
  let n ← constantName
  let c ← r.constantRest
  if c.hasValue && c.isPlain then
    return some (.constant n, attrs ++ words ++ .word "const" :: .word n :: c.code)
  else return none

/-- A type with a value, after its attributes. -/
def memberType (attrs : Code) (isDefault : Bool) : Reader (Option (Member × Code)) := do
  let words ← memberWords isDefault
  let t ← r.typeName .after
  if t.value.isSome && !t.hasColon then
    let code := words ++ t.head ++ t.valueCode ++ t.clauseCode ++ [.mark ';' false]
    return some (.other, attrs ++ code)
  else return none

/-- A member and its code; none if it is kept as it is written. -/
def knownMember : Reader (Option (Member × Code)) := do
  let attrs ← r.outerCode
  let (vis, ts) ← after visibility
  let isDefault := Ahead.word "default" ts && !Ahead.operator "!" (ts.drop 1)
  let ts := if isDefault then ts.drop 1 else ts
  if startsFunction false ts then r.memberFunction attrs isDefault
  else if Ahead.word "const" ts then r.memberConstant attrs isDefault
  else if Ahead.word "type" ts then r.memberType attrs isDefault
  else if vis.isEmpty && !isDefault && startsMacroPath ts then
    return some (.other, attrs ++ (← memberMacro))
  else
    let _ ← memberWords isDefault
    want (memberStarts isDefault (vis.isEmpty && !isDefault))

/-- A member and its code. -/
def member : Reader (Member × Code) := do
  let (known, taken) ← taking r.knownMember
  return known.getD (.other, Tree.codeAll taken)

/-- One function of a block of members. -/
def method : Reader Method := do
  let _ ← r.outerCode
  let visibility ← visibility
  let _ ← keyword? "default"
  let signature ← r.signature
  let _ ← r.body
  return { visibility, signature }

/-! ## Blocks -/

/-- The trait and the type of a block, or only the type. -/
def blockTypes : Reader BlockHead := do
  let place ← here
  let ts ← rest
  let negative := Ahead.operator "!" ts && !Ahead.group .braces (ts.drop 1)
  if negative then operator "!"
  let first ← r.type true
  if ← keyword? "for" then
    let self ← r.type true
    let isPath := match first with | .path .. => true | _ => false
    let code := (if negative then [.mark '!' false] else []) ++ first.code ++
      .word "for" :: self.code
    return ⟨!isPath, isPath, self, code⟩
  else
    if negative then fail .negativeInherent place
    return ⟨false, false, first, first.code⟩

/-- What stands before the body of a block of members. -/
def blockHead : Reader BlockHead := do
  let vis ← visibility
  let words := (← keywordCode? "default") ++ (← keywordCode? "unsafe")
  keyword "impl"
  let generics ← if ← sees startsGenerics then r.generics else pure .none
  let ts ← rest
  let isConst := Ahead.word "const" ts || Ahead.operator "?" ts && Ahead.word "const" (ts.drop 1)
  if isConst then
    let _ ← operator? "?"
    keyword "const"
  let types ← r.blockTypes
  let clause ← r.whereClause?
  let code := words ++ .word "impl" :: generics.code ++ types.code ++ whereCode clause
  return { types with isStrange := types.isStrange || !vis.isEmpty || isConst, code }

/-- A block of members after its attributes; none if it is kept as it is written. -/
def memberBlock (attrs : Code) : Reader (Option Item) := do
  let head ← r.blockHead
  let (inner, members) ← group .braces do
    let inner ← r.innerCode
    return (inner, ← many (!List.isEmpty ·) r.member)
  if head.isStrange then return none
  let body := Code.within .braces (inner ++ members.flatMap Prod.snd)
  return some (.members
    ⟨head.ofTrait, head.selfType, members.map Prod.fst, attrs ++ head.code ++ body⟩)

end Nested

end TypedIds.Grammar
