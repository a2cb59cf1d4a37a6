import TypedIds.Grammar.Item.Block
import TypedIds.Grammar.Item.Foreign
import TypedIds.Grammar.Item.Trait
import TypedIds.Grammar.Item.Use

/-!
# Reading items

An item begins with attributes and a visibility; the words after these tell what it is.  Structs,
modules and blocks of members are taken apart, any other item becomes code again: that of its parts
if it is known what they mean, and the trees as they are written if it is not.
-/

set_option autoImplicit false

namespace TypedIds.Grammar

open Reader

/-- What the next item may be. -/
def itemStarts : List Wanted :=
  [.keyword "fn", .keyword "extern", .keyword "use", .keyword "static", .keyword "const",
   .keyword "unsafe", .keyword "mod", .keyword "type", .keyword "struct", .keyword "enum",
   .keyword "union", .keyword "trait", .keyword "auto", .keyword "impl", .keyword "default",
   .keyword "macro"]

/-- The call of a macro where an item may stand: a name may follow its `!`. -/
def macroItem : Reader Code := do
  let path ← plainPath
  operator "!"
  let n ← if ← sees namesMacroItem then pure [.word (← anyWord).1] else pure []
  let (d, args) ← macroTrees
  return path.code ++ .mark '!' false :: n ++ args ++ (← macroEnd d)

/-- The definition of a macro. -/
def macroDefinition : Reader Unit := do
  let _ ← visibility
  keyword "macro"
  let _ ← name
  let parens ← sees (Ahead.group .parens)
  if parens then let _ ← anyGroup
  if ← sees (Ahead.group .braces) then let _ ← anyGroup
  else want ((if parens then [] else [Wanted.group .parens]) ++ [.group .braces])

namespace Nested

variable (r : Nested)

/-! ## Functions and values -/

/-- A function; none if it has no body and is kept as it is written. -/
def functionItem : Reader (Option Code) := do
  let vis ← visibility
  let signature ← r.signature
  if ← operator? ";" then return none
  return some (vis ++ signature.code ++ (← r.body))

/-- A `static`; none if it lacks its type or its value and is kept as it is written. -/
def staticItem : Reader (Option Code) := do
  let vis ← visibility
  keyword "static"
  let mutable ← keywordCode? "mut"
  let (n, _) ← name
  if ← operator? "=" then
    let _ ← r.expression
    operator ";"
    return none
  operator ":"
  let t ← r.type true
  if ← operator? ";" then return none
  operator "="
  let e ← r.expression
  let stop ← semicolon
  return some (vis ++ .word "static" :: mutable ++ .word n :: .mark ':' false :: t.code ++
    .mark '=' false :: e.code ++ stop)

/-- A constant; none if it is generic or has no value and is kept as it is written. -/
def constantItem : Reader (Option Code) := do
  let vis ← visibility
  keyword "const"
  let n ← constantName
  let c ← r.constantRest
  return if c.hasValue && c.isPlain then
      some (vis ++ .word "const" :: .word n :: c.code)
    else none

/-! ## Types -/

/-- A name for a type; none if it has bounds or no value and is kept as it is written. -/
def typeItem : Reader (Option Code) := do
  let vis ← visibility
  let t ← r.typeName .before
  return if t.value.isSome && !t.hasColon then
      some (vis ++ t.head ++ t.clauseCode ++ t.valueCode ++ [.mark ';' false])
    else none

/-- A variant of an `enum`, whose visibility means nothing. -/
def variant : Reader Code := do
  let attrs ← r.outerCode
  let _ ← visibility
  let (n, _) ← name
  let ts ← rest
  let fields ←
    if Ahead.group .braces ts then r.namedFields
    else if Ahead.group .parens ts then r.unnamedFields
    else pure .unit
  let value ← if ← operator? "=" then pure (.mark '=' false :: (← r.expression).code) else pure []
  return attrs ++ .word n :: fields.code ++ value

/-- An `enum`. -/
def enumItem : Reader Code := do
  let vis ← visibility
  keyword "enum"
  let (n, _) ← name
  let generics ← r.generics
  let clause ← r.whereClause?
  let (variants, trailing) ← group .braces (commaList r.variant)
  return vis ++ .word "enum" :: .word n :: generics.code ++ whereCode clause ++
    Code.within .braces (Code.commas variants trailing)

/-- A `union`. -/
def unionItem : Reader Code := do
  let vis ← visibility
  keyword "union"
  let (n, _) ← name
  let generics ← r.generics
  let clause ← r.whereClause?
  let fields ← r.namedFields
  return vis ++ .word "union" :: .word n :: generics.code ++ whereCode clause ++ fields.code

/-! ## Modules -/

/-- A module after its attributes. -/
def moduleAfter (attrs : Code) : Reader Item := do
  let vis ← visibility
  let safety ← keywordCode? "unsafe"
  keyword "mod"
  let n ← nameOrTry
  let start := attrs ++ vis ++ safety ++ [.word "mod"]
  if ← operator? ";" then return .other (start ++ [.word n, .mark ';' false])
  else if ← sees (Ahead.group .braces) then
    let (inner, items) ← group .braces do
      let inner ← r.innerCode
      return (inner, ← many (!List.isEmpty ·) r.item)
    return .module ⟨start, n, inner⟩ items
  else want [.operator ";", .group .braces]

/-! ## Items -/

/-- An item that begins with `extern` and is no function, given what follows that word. -/
def externItem (ts : List Tree) : Reader Code := do
  let skip : Nat → Reader Unit := fun n ↦ do
    let _ ← visibility
    drop n
  if Ahead.word "crate" ts then externCrate
  else if Ahead.group .braces ts then r.foreignBlock
  else if Ahead.text ts then
    if Ahead.group .braces (ts.drop 1) then r.foreignBlock
    else skip 2; want [.group .braces]
  else skip 1; want [.keyword "crate", .group .braces, .textLiteral]

/-- An item that begins with `unsafe` and is no function, given what follows that word. -/
def unsafeItem (attrs : Code) (ts : List Tree) : Reader (Option Item) := do
  if startsTrait ts then return some (.other (attrs ++ (← r.trait)))
  else if Ahead.word "impl" ts then r.memberBlock attrs
  else if Ahead.word "extern" ts then return some (.other (attrs ++ (← r.foreignBlock)))
  else if Ahead.word "mod" ts then return some (← r.moduleAfter attrs)
  else
    let _ ← visibility
    drop 1
    want [.keyword "trait", .keyword "auto", .keyword "impl", .keyword "extern", .keyword "mod"]

/-- An item; none if it is kept as it is written. -/
def knownItem : Reader (Option Item) := do
  let attributes ← r.outerAttributes
  let attrs := Attribute.codeAll attributes
  let code : Code → Item := fun c ↦ .other (attrs ++ c)
  let (vis, ts) ← after visibility
  let next := ts.drop 1
  if startsFunction false ts then return (← r.functionItem).map code
  else if Ahead.word "extern" ts then return some (code (← r.externItem next))
  else if Ahead.word "use" ts then return (← useItem).map code
  else if Ahead.word "static" ts then return (← r.staticItem).map code
  else if Ahead.word "const" ts then return (← r.constantItem).map code
  else if Ahead.word "unsafe" ts then r.unsafeItem attrs next
  else if Ahead.word "mod" ts then return some (← r.moduleAfter attrs)
  else if Ahead.word "type" ts then return (← r.typeItem).map code
  else if Ahead.word "struct" ts then return some (.struct (← r.structAfter attributes))
  else if Ahead.word "enum" ts then return some (code (← r.enumItem))
  else if Ahead.word "union" ts && Ahead.name next then return some (code (← r.unionItem))
  else if startsTrait ts then return some (code (← r.trait))
  else if Ahead.word "impl" ts || Ahead.word "default" ts && !Ahead.operator "!" next then
    r.memberBlock attrs
  else if Ahead.word "macro" ts then
    macroDefinition
    return none
  else if vis.isEmpty && startsMacroPath ts then return some (code (← macroItem))
  else
    let _ ← visibility
    want (itemStarts ++ if vis.isEmpty then macroStarts else [])

/-- An item. -/
def itemOf : Reader Item := do
  let (known, taken) ← taking r.knownItem
  return known.getD (.other (Tree.codeAll taken))

end Nested

end TypedIds.Grammar
