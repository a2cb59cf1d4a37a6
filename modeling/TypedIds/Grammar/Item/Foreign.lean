import TypedIds.Grammar.Item.Part

/-!
# Reading foreign blocks

A block after `extern` declares functions, statics and types that are defined elsewhere.  What has a
body, a value, bounds, or one of the words `safe` and, for a static, `unsafe`, is kept as it is
written.
-/

set_option autoImplicit false

namespace TypedIds.Grammar

open Reader

/-- Whether a foreign static begins here. -/
def startsForeignStatic (ts : List Tree) : Bool :=
  Ahead.word "static" ts ||
    Ahead.oneOf ["unsafe", "safe"] ts && Ahead.word "static" (ts.drop 1)

namespace Nested

variable (r : Nested)

/-- A foreign function; none if it is kept as it is written. -/
def foreignFunction : Reader (Option Code) := do
  let vis ← visibility
  let (signature, isSafe) ← r.signatureOf true
  if ← sees (Ahead.group .braces) then
    let _ ← r.body
    return none
  else
    let stop ← semicolon
    return if isSafe then none else some (vis ++ signature.code ++ stop)

/-- A foreign static; none if it is kept as it is written. -/
def foreignStatic : Reader (Option Code) := do
  let vis ← visibility
  let isUnsafe ← keyword? "unsafe"
  let isSafe ← if isUnsafe then pure false else keyword? "safe"
  keyword "static"
  let mutable ← keywordCode? "mut"
  let (n, _) ← name
  operator ":"
  let t ← r.type true
  let hasValue ← operator? "="
  if hasValue then let _ ← r.expression
  let stop ← semicolon
  let code := vis ++ .word "static" :: mutable ++ .word n :: .mark ':' false :: t.code ++ stop
  return if isUnsafe || isSafe || hasValue then none else some code

/-- A foreign type; none if it is kept as it is written. -/
def foreignType : Reader (Option Code) := do
  let vis ← visibility
  let t ← r.typeName .either
  return if t.hasColon || t.value.isSome then none
    else some (vis ++ t.head ++ t.clauseCode ++ [.mark ';' false])

/-- A foreign item; none if it is kept as it is written. -/
def foreignItem : Reader (Option Code) := do
  let attrs ← r.outerCode
  let (vis, ts) ← after visibility
  let code ←
    if startsFunction true ts then r.foreignFunction
    else if startsForeignStatic ts then r.foreignStatic
    else if Ahead.word "type" ts then r.foreignType
    else if vis.isEmpty && startsMacroPath ts then some <$> memberMacro
    else
      let _ ← visibility
      want ([.keyword "fn", .keyword "static", .keyword "type"] ++
        if vis.isEmpty then macroStarts else [])
  return code.map (attrs ++ ·)

/-- A block of foreign items, which has no visibility. -/
def foreignBlock : Reader Code := do
  let safety ← keywordCode? "unsafe"
  if !(← sees (Ahead.word "extern")) then want [.keyword "extern"]
  let convention ← abi
  let inner ← group .braces do
    let inner ← r.innerCode
    return inner ++ (← many (!List.isEmpty ·) (orWritten r.foreignItem)).flatten
  return safety ++ convention ++ Code.within .braces inner

end Nested

end TypedIds.Grammar
