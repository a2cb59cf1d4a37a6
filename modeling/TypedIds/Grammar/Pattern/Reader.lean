import TypedIds.Grammar.Path.Reader

/-!
# Reading patterns

A pattern is a name, a literal, a range of these, a path with or without fields, or patterns in
parentheses, in brackets, or after `&`.  Alternatives with `|` between them may stand inside of
groups and wherever a pattern is not followed by a type.
-/

set_option autoImplicit false

namespace TypedIds.Grammar

open Reader

/-- What a pattern may begin with. -/
def patternStarts : List Wanted :=
  [.name, .operator "::", .operator "<", .keyword "_", .literal, .keyword "const", .keyword "ref",
   .keyword "mut", .operator "&", .group .parens, .group .brackets, .operator "..",
   .keyword "const"]

/-- What the end of a range may begin with. -/
def rangeEndStarts : List Wanted :=
  [.literal, .name, .operator "::", .operator "<", .keyword "self", .keyword "Self",
   .keyword "super", .keyword "crate", .keyword "const"]

/-- Whether a pattern begins with a path, a macro or a range. -/
def startsPathPattern (ts : List Tree) : Bool :=
  let next := ts.drop 1
  Ahead.name ts && (Ahead.operator "::" next || Ahead.operator "!" next ||
      Ahead.group .braces next || Ahead.group .parens next || Ahead.operator ".." next) ||
    Ahead.word "self" ts && Ahead.operator "::" next ||
    Ahead.operator "::" ts || Ahead.operator "<" ts || Ahead.oneOf ["Self", "super", "crate"] ts

/-- Whether a range ends here, having no end of its own. -/
def endsRange (ts : List Tree) : Bool :=
  ts.isEmpty || Ahead.operator "|" ts || Ahead.operator "=" ts ||
    Ahead.operator ":" ts && !Ahead.operator "::" ts || Ahead.operator "," ts ||
    Ahead.operator ";" ts || Ahead.word "if" ts

/-- Whether another alternative of a pattern follows. -/
def startsAlternative (ts : List Tree) : Bool :=
  Ahead.operator "|" ts && !Ahead.operator "||" ts && !Ahead.operator "|=" ts

namespace Nested

variable (r : Nested)

/-- Alternatives with `|` between them, which may begin with one. -/
def alternatives : Reader Pattern := do
  let leading ← operator? "|"
  let first ← r.pattern
  let more ← many startsAlternative do
    operator "|"
    return .mark '|' false :: (← r.pattern).code
  if !leading && more.isEmpty then return first
  return .plain ((if leading then [.mark '|' false] else []) ++ first.code ++ more.flatten)

/-! ## Ranges -/

/-- The start or the end of a range, if there is one. -/
def rangeBound? : Reader (Option Code) := do
  let ts ← rest
  if endsRange ts then return none
  else if Ahead.literal ts then return some (← literal)
  else if Ahead.operator "<" ts || Ahead.word "self" ts || startsPath ts then
    return some (← r.expressionPath).1
  else if Ahead.word "const" ts then
    return some ((← keywordCode "const") ++ (← r.body))
  else want rangeEndStarts

/-- A range after its start, which may be missing. -/
def rangeRest (start : Option Code) : Reader Pattern := do
  let ts ← rest
  let closed := Ahead.operator "..=" ts || Ahead.operator "..." ts
  let ((), dots) ← taking (drop (if closed then 3 else 2))
  let stop ← r.rangeBound?
  if closed && stop.isNone then want [.rangeEnd]
  let code := start.getD [] ++ Code.op (if closed then "..=" else "..") ++ stop.getD []
  return match start, stop with
  | none, none | some _, some _ => .plain code
  | _, _ => ⟨code, some (Tree.spanAll dots), false⟩

/-- A literal or a block, or a range that begins with one. -/
def literalPattern : Reader Pattern := do
  let start := (← r.rangeBound?).getD []
  if ← sees (Ahead.operator "..") then r.rangeRest (some start) else return .plain start

/-! ## Parts in groups -/

/-- A field of a pattern with braces, after its attributes. -/
def fieldPattern (attrs : Code) : Reader Code := do
  let ((words, isBoxed, named), taken) ← taking do
    let isBoxed ← keyword? "box"
    let words := (← keywordCode? "ref") ++ (← keywordCode? "mut")
    if isBoxed || !words.isEmpty then return (words ++ [.word (← name).1], isBoxed, true)
    else
      let (code, isName) ← fieldName
      let named := isName && !(← sees (Ahead.operator ":"))
      return (code, false, named)
  if named then
    return attrs ++ if isBoxed then Tree.codeAll taken else words
  else
    operator ":"
    return attrs ++ words ++ .mark ':' false :: (← r.alternatives).code

/-- The fields of a pattern with braces; `..` comes last. -/
def fieldPatternsFor : (rounds : Nat) → Reader Code
  | 0 => do fail .tooDeep (← here)
  | n + 1 => do
    if ← atEnd then return []
    let attrs ← r.outerCode
    if ← operator? ".." then return attrs ++ Code.op ".."
    let field ← r.fieldPattern attrs
    if ← atEnd then return field
    operator ","
    return field ++ .mark ',' false :: (← fieldPatternsFor n)

/-- Patterns with commas between them, to the end of the trees. -/
def patternList : Reader Code := do
  let (ps, trailing) ← commaList (return (← r.alternatives).code)
  return Code.commas ps trailing

/-- A pattern that begins with a path. -/
def pathPattern : Reader Pattern := do
  let (path, isPlain) ← r.expressionPath
  let ts ← rest
  if isPlain && startsMacro ts then return .plain (path ++ (← macroRest).2)
  else if Ahead.group .braces ts then
    let fields ← group .braces do r.fieldPatternsFor ((← rest).length + 1)
    return .plain (path ++ Code.within .braces fields)
  else if Ahead.group .parens ts then
    return .plain (path ++ Code.within .parens (← group .parens r.patternList))
  else if Ahead.operator ".." ts then r.rangeRest (some path)
  else return .plain path

/-- A pattern in brackets.  A part of it that is a range has both a start and an end. -/
def slicePattern : Reader Pattern := do
  let (ps, trailing) ← group .brackets (commaList do
    let p ← r.alternatives
    match p.openRange with
    | some s => fail .openRangeInSlice s
    | none => return p.code)
  return .plain (Code.within .brackets (Code.commas ps trailing))

/-- A name with the words before it, and perhaps a pattern after an `@`. -/
def bindingPattern : Reader Pattern := do
  let words := (← keywordCode? "ref") ++ (← keywordCode? "mut")
  let (n, _) ← if ← sees (Ahead.word "self") then anyWord else name
  let sub ← if ← operator? "@" then pure (.mark '@' false :: (← r.pattern).code) else pure []
  return .plain (words ++ .word n :: sub)

/-- A pattern after `box`, kept as it is written. -/
def boxPattern : Reader Pattern := do
  let (_, taken) ← taking do
    keyword "box"
    r.pattern
  return ⟨Tree.codeAll taken, none, true⟩

/-- A pattern without alternatives. -/
def patternOf : Reader Pattern := do
  let ts ← rest
  if startsPathPattern ts then r.pathPattern
  else if Ahead.word "_" ts then return .plain [.word (← anyWord).1]
  else if Ahead.word "box" ts then r.boxPattern
  else if Ahead.operator "-" ts || Ahead.literal ts || Ahead.word "const" ts then r.literalPattern
  else if Ahead.oneOf ["ref", "mut", "self"] ts || Ahead.name ts then r.bindingPattern
  else if Ahead.operator "&" ts then
    operator "&"
    let mutable ← keywordCode? "mut"
    return .plain (.mark '&' false :: mutable ++ (← r.pattern).code)
  else if Ahead.group .parens ts then
    return .plain (Code.within .parens (← group .parens r.patternList))
  else if Ahead.group .brackets ts then r.slicePattern
  else if Ahead.operator ".." ts && !Ahead.operator "..." ts then r.rangeRest none
  else want patternStarts

end Nested

end TypedIds.Grammar
