import TypedIds.Grammar.Item.Part

/-!
# Reading traits

A trait holds functions with or without body, constants, types and macros.  A member with a
visibility or `default`, and a constant that is generic, are kept as they are written.  A trait may
also be another name for bounds.
-/

set_option autoImplicit false

namespace TypedIds.Grammar

open Reader

/-- What the name of a constant in a trait may be, or what makes it a function after all. -/
def traitConstantStarts : List Wanted :=
  [.name, .keyword "_", .keyword "async", .keyword "unsafe", .keyword "extern", .keyword "fn"]

/-- Whether a trait begins here, after `unsafe` or not. -/
def startsTrait (ts : List Tree) : Bool :=
  Ahead.word "trait" ts || Ahead.word "auto" ts && Ahead.word "trait" (ts.drop 1)

namespace Nested

variable (r : Nested)

/-! ## Members -/

/-- A function, with a body or without. -/
def traitFunction : Reader Code := do
  let signature ← r.signature
  let ts ← rest
  if Ahead.group .braces ts then return signature.code ++ (← r.body)
  else if Ahead.operator ";" ts then return signature.code ++ (← semicolon)
  else want [.group .braces, .operator ";"]

/-- A constant, with a value or without; none if it is kept as it is written. -/
def traitConstant : Reader (Option Code) := do
  let ts := (← rest).drop 1
  if Ahead.oneOf ["async", "unsafe", "extern", "fn"] ts then return some (← r.traitFunction)
  keyword "const"
  if !(Ahead.name ts || Ahead.word "_" ts) then want traitConstantStarts
  let n ← constantName
  let c ← r.constantRest
  return if c.isPlain then some (.word "const" :: .word n :: c.code) else none

/-- A type, with a value or without. -/
def traitType : Reader Code := do
  let t ← r.typeName .after
  return t.head ++ afterColon t.bounds ++ t.valueCode ++ t.clauseCode ++ [.mark ';' false]

/-- A member of a trait; none if it is kept as it is written. -/
def traitMember : Reader (Option Code) := do
  let attrs ← r.outerCode
  let vis ← visibility
  let isDefault ← keyword? "default"
  let isPlain := vis.isEmpty && !isDefault
  let ts ← rest
  let code ←
    if startsFunction false ts then some <$> r.traitFunction
    else if Ahead.word "const" ts then r.traitConstant
    else if Ahead.word "type" ts then some <$> r.traitType
    else if isPlain && startsMacroPath ts then some <$> memberMacro
    else
      want ([.keyword "fn", .keyword "const", .keyword "type"] ++
        if isPlain then macroStarts else [])
  return if isPlain then code.map (attrs ++ ·) else none

/-! ## Traits -/

/-- What follows the name and the generics of a trait. -/
def traitRest : Reader Code := do
  let stop := fun ts ↦ Ahead.word "where" ts || Ahead.group .braces ts
  let bounds ← if ← operator? ":" then r.boundsTo true stop else pure []
  let clause ← r.whereClause?
  let inner ← group .braces do
    let inner ← r.innerCode
    return inner ++ (← many (!List.isEmpty ·) (orWritten r.traitMember)).flatten
  return afterColon bounds ++ whereCode clause ++ Code.within .braces inner

/-- What follows the name and the generics of a trait that is another name for bounds. -/
def traitAliasRest : Reader Code := do
  operator "="
  let stop := fun ts ↦ Ahead.word "where" ts || Ahead.operator ";" ts
  let bounds ← r.boundsTo false stop
  let clause ← r.whereClause?
  return .mark '=' false :: bounds ++ whereCode clause ++ (← semicolon)

/-- A trait, or another name for bounds if there is no word before `trait`. -/
def trait : Reader Code := do
  let vis ← visibility
  let words := (← keywordCode? "unsafe") ++ (← keywordCode? "auto")
  keyword "trait"
  let (n, _) ← name
  let generics ← r.generics
  let head := vis ++ words ++ .word "trait" :: .word n :: generics.code
  if !words.isEmpty then return head ++ (← r.traitRest)
  let ts ← rest
  if Ahead.operator "=" ts then return head ++ (← r.traitAliasRest)
  else if Ahead.group .braces ts || Ahead.operator ":" ts || Ahead.word "where" ts then
    return head ++ (← r.traitRest)
  else want [.group .braces, .operator ":", .keyword "where", .operator "="]

end Nested

end TypedIds.Grammar
