import TypedIds.Grammar.Expression.Trailer
import TypedIds.Grammar.Pattern.Reader

/-!
# Reading expressions

An expression is an operand with operators and operands after it.  An operand is an atom with what
follows it, after unary operators.  What an atom is, its first tokens tell.

Operators are read by climbing: after an operand come the operators that bind at least as tightly as
a given precedence, and the right side of each takes all that bind more tightly than it.
Comparisons do not chain, an assignment takes another one on its right, and nothing follows a range.
-/

set_option autoImplicit false

namespace TypedIds.Grammar

open Reader

/-! ## Looking ahead -/

/-- Whether an expression begins here.  Words count as its beginning, whatever they mean. -/
def startsExpression (ts : List Tree) : Bool :=
  Ahead.anyWord ts && !Ahead.word "as" ts ||
    Ahead.group .parens ts || Ahead.group .brackets ts || Ahead.group .braces ts ||
    Ahead.literal ts || startsMacro ts ||
    Ahead.operator "-" ts && !Ahead.operator "-=" ts && !Ahead.operator "->" ts ||
    Ahead.operator "*" ts && !Ahead.operator "*=" ts ||
    Ahead.operator "|" ts && !Ahead.operator "|=" ts ||
    Ahead.operator "&" ts && !Ahead.operator "&=" ts ||
    Ahead.operator ".." ts ||
    Ahead.operator "<" ts && !Ahead.operator "<=" ts && !Ahead.operator "<<=" ts ||
    Ahead.operator "::" ts || Ahead.lifetime ts || Ahead.operator "#" ts

/-- Whether generic parameters follow a word. -/
def startsGenericsAfter (w : String) (ts : List Tree) : Bool :=
  Ahead.word w ts && startsGenerics (ts.drop 1)

/-- Whether an `async` block begins here. -/
def startsAsync (ts : List Tree) : Bool :=
  Ahead.word "async" ts &&
    (Ahead.group .braces (ts.drop 1) ||
      Ahead.word "move" (ts.drop 1) && Ahead.group .braces (ts.drop 2))

/-- Whether a closure begins here. -/
def startsClosure (ts : List Tree) : Bool :=
  let next := ts.drop 1
  Ahead.operator "|" ts || Ahead.word "move" ts || startsGenericsAfter "for" ts ||
    Ahead.word "const" ts && !Ahead.group .braces next || Ahead.word "static" ts ||
    Ahead.word "async" ts && (Ahead.operator "|" next || Ahead.word "move" next)

/-- Whether an atom begins with a path. -/
def startsPathAtom (ts : List Tree) : Bool :=
  let next := ts.drop 1
  startsPath ts || Ahead.operator "<" ts ||
    Ahead.word "try" ts && (Ahead.operator "!" next || Ahead.operator "::" next)

/-- Operators that cannot begin the end of a range. -/
def rangeStops : List String :=
  ["=", "+", "/", "%", "^", ">", "<=", "!=", "-=", "*=", "&=", "|=", "<<="]

/-- Whether a range has no end, given what follows its two dots. -/
def endsOpenRange (structs : Bool) (ts : List Tree) : Bool :=
  ts.isEmpty || Ahead.operator "," ts || Ahead.operator ";" ts || startsPoint ts ||
    Ahead.operator "?" ts || Ahead.operator "=>" ts || !structs && Ahead.group .braces ts ||
    rangeStops.any (Ahead.operator · ts) || Ahead.word "as" ts

/-- What cannot follow a cast, if it comes next. -/
def afterCast? (ts : List Tree) : Option String :=
  let next := ts.drop 1
  let last := ts.drop 2
  if startsPoint ts then
    if Ahead.word "await" next then some "`.await`"
    else if Ahead.name next && (Ahead.group .parens last || Ahead.operator "::" last) then
      some "a method call"
    else some "a field access"
  else if Ahead.operator "?" ts then some "`?`"
  else if Ahead.group .brackets ts then some "indexing"
  else if Ahead.group .parens ts then some "a function call"
  else none

/-- The label of a loop or a block. -/
def label : Reader Code := do
  let l ← lifetime
  operator ":"
  return [.lifetime l, .mark ':' false]

namespace Nested

variable (r : Nested)

/-! ## Operators -/

/-- The right side of an operator, of which an operand has been read. -/
def rightSideFor (structs : Bool) (p : Precedence) : (rounds : Nat) → Expression → Reader Expression
  | 0, _ => do fail .tooDeep (← here)
  | n + 1, e => do
    let ts ← rest
    let next := nextPrecedence ts
    if p.level < next.level || next = p && p = .assign then
      let e ← r.climb structs next e
      if (← rest).length = ts.length then return e else rightSideFor structs p n e
    else return e

/-- The right side of an operator with this precedence. -/
def rightSide (structs : Bool) (p : Precedence) : Reader Expression := do
  let e ← r.operand structs
  r.rightSideFor structs p ((← rest).length + 1) e

/-- The dots of a range and its end, if it has one. -/
def rangeFrom (structs : Bool) (start : Code) : Reader Expression := do
  let ts ← rest
  if Ahead.operator "..." ts then want [.operator "..="]
  let closed := Ahead.operator "..=" ts
  let op := if closed then "..=" else ".."
  let ((), dots) ← taking (operator op)
  let stop ←
    if !closed && (← sees (endsOpenRange structs)) then pure []
    else pure (← r.rightSide structs .range).code
  return ⟨.range (Tree.spanAll dots), start ++ Code.op op ++ stop, false⟩

/-- A cast of an expression. -/
def castOf (e : Expression) : Reader Expression := do
  keyword "as"
  let t ← r.type false
  match afterCast? (← rest) with
  | some what => fail (.castFollowed what) (← here)
  | none => return { e.followed (.word "as" :: t.code) with losesAttributes := e.losesAttributes }

/-- An expression with one operator and its right side after it, if an operator comes next that
binds at least as tightly as `base`. -/
def operation? (structs : Bool) (base : Precedence) (e : Expression) :
    Reader (Option Expression) := do
  let ts ← rest
  if e.isRange then return none
  match binary? ts with
  | some (op, p) =>
    if !p.reaches base then return none
    if p = .compare && e.form = .comparison then fail .chainedComparison (← here)
    operator op
    let right ← r.rightSide structs p
    let form := if p = .compare then ExpressionForm.comparison else .other
    return some ⟨form, e.code ++ Code.op op ++ right.code, e.losesAttributes⟩
  | none =>
    if Precedence.assign.reaches base && startsAssignment ts then
      operator "="
      let right ← r.rightSide structs .assign
      return some ⟨.other, e.code ++ .mark '=' false :: right.code, e.losesAttributes⟩
    else if Precedence.range.reaches base && Ahead.operator ".." ts then
      return some (← r.rangeFrom structs e.code)
    else if Precedence.cast.reaches base && Ahead.word "as" ts then return some (← r.castOf e)
    else return none

/-- The operators after an expression that bind at least as tightly as `base`. -/
def climbFor (structs : Bool) (base : Precedence) : (rounds : Nat) → Expression → Reader Expression
  | 0, _ => do fail .tooDeep (← here)
  | n + 1, e => do
    match ← r.operation? structs base e with
    | some e => climbFor structs base n e
    | none => return e

/-- The operators after an expression that bind at least as tightly as `base`. -/
def climbFrom (structs : Bool) (base : Precedence) (e : Expression) : Reader Expression := do
  r.climbFor structs base ((← rest).length + 1) e

/-! ## Paths and groups -/

/-- A field of a struct with its value. -/
def fieldValue : Reader Code := do
  let attrs ← r.outerCode
  let (member, isName) ← fieldName
  if isName && !(← sees (Ahead.operator ":")) then return attrs ++ member
  operator ":"
  return attrs ++ member ++ .mark ':' false :: (← r.expression).code

/-- The fields of a struct; `..` and what the other fields are taken from come last. -/
def fieldValuesFor : (rounds : Nat) → Reader Code
  | 0 => do fail .tooDeep (← here)
  | n + 1 => do
    if ← atEnd then return []
    if ← operator? ".." then
      if ← atEnd then return Code.op ".." else return Code.op ".." ++ (← r.expression).code
    let field ← r.fieldValue
    if ← atEnd then return field
    operator ","
    return field ++ .mark ',' false :: (← fieldValuesFor n)

/-- A path, the call of a macro, or a struct. -/
def pathAtom (structs : Bool) : Reader Expression := do
  let (path, isPlain) ← r.expressionPath
  if isPlain && (← sees startsMacro) then
    let (d, args) ← macroRest
    return ⟨.macroCall d, path ++ args, false⟩
  if structs && (← sees (Ahead.group .braces)) then
    let fields ← group .braces do r.fieldValuesFor ((← rest).length + 1)
    return .plain (path ++ Code.within .braces fields)
  return .plain path

/-- Expressions with commas between them, of which the first has been read. -/
def listAfter (first : Expression) : Reader Code := do
  if ← atEnd then return first.code
  operator ","
  let (more, trailing) ← commaList r.expression
  return Code.commas (first.code :: more.map Expression.code) (trailing || more.isEmpty)

/-- An expression in parentheses, or a tuple. -/
def parenAtom : Reader Expression := do
  let inner ← group .parens do
    if ← atEnd then return []
    r.listAfter (← r.expression)
  return .plain (Code.within .parens inner)

/-- An array, by its elements or by one and how often it is repeated. -/
def arrayAtom : Reader Expression := do
  let inner ← group .brackets do
    if ← atEnd then return []
    let first ← r.expression
    let ts ← rest
    if ts.isEmpty || Ahead.operator "," ts then r.listAfter first
    else if ← operator? ";" then return first.code ++ .mark ';' false :: (← r.expression).code
    else want [.operator ",", .operator ";"]
  return .plain (Code.within .brackets inner)

/-! ## Closures -/

/-- A parameter of a closure. -/
def closureParam : Reader Code := do
  let attrs ← r.outerCode
  let p ← r.pattern
  if ← operator? ":" then return attrs ++ p.code ++ .mark ':' false :: (← r.type true).code
  else return (if p.isVerbatim then [] else attrs) ++ p.code

/-- What a closure yields, if it is given, and its body. -/
def closureRest (structs : Bool) : Reader Code := do
  if ← operator? "->" then
    let t ← r.type true
    return Code.op "->" ++ t.code ++ (← r.block)
  else return (← r.expressionWith structs).code

/-- A closure. -/
def closureAtom (structs : Bool) : Reader Expression := do
  let binder ← r.binder?
  let words := (← keywordCode? "const") ++ (← keywordCode? "static") ++
    (← keywordCode? "async") ++ (← keywordCode? "move")
  operator "|"
  let (params, trailing) ← separated (operator ",") (Ahead.operator "|") r.closureParam
  operator "|"
  let head := binder.getD [] ++ words ++
    .mark '|' false :: Code.commas params trailing ++ [.mark '|' false]
  return .plain (head ++ (← r.closureRest structs))

/-! ## Leaving a block -/

/-- An expression as the value of a word before it, if one begins here. -/
def value? (structs : Bool) : Reader Code := do
  let ts ← rest
  if startsExpression ts && (structs || !Ahead.group .braces ts) then
    return (← r.expression).code
  else return []

/-- A `break`.  A label cannot be that of its value. -/
def breakAtom (structs : Bool) : Reader Expression := do
  keyword "break"
  let ts ← rest
  if Ahead.lifetime ts && Ahead.operator ":" (ts.drop 1) then
    let start ← here
    let (_, taken) ← taking r.expression
    fail .labelledBreak (start.to (Tree.spanAll taken))
  let l ← lifetimeCode?
  return .plain (.word "break" :: l ++ (← r.value? structs))

/-- A word and perhaps a value after it. -/
def wordWithValue (w : String) : Reader Expression := do
  keyword w
  return .plain (.word w :: (← r.value? true))

/-- A `become` with its value, kept as it is written. -/
def becomeAtom : Reader Expression := do
  let (_, taken) ← taking do
    keyword "become"
    r.expression
  return .verbatim (Tree.codeAll taken)

/-! ## Blocks with a condition -/

/-- A `let` as a condition. -/
def letAtom (structs : Bool) : Reader Expression := do
  keyword "let"
  let p ← r.alternatives
  operator "="
  let e ← r.climb structs .compare (← r.operand structs)
  return .plain (.word "let" :: p.code ++ .mark '=' false :: e.code)

/-- An `if` with all that its `else` leads to. -/
def ifCode : (rounds : Nat) → Reader Code
  | 0 => do fail .tooDeep (← here)
  | n + 1 => do
    keyword "if"
    let c ← r.condition
    let head := .word "if" :: c.code ++ (← r.block)
    if ← keyword? "else" then
      let ts ← rest
      if Ahead.word "if" ts then return head ++ .word "else" :: (← ifCode n)
      else if Ahead.group .braces ts then return head ++ .word "else" :: (← r.block)
      else want [.keyword "if", .group .braces]
    else return head

/-- An arm of a `match`. -/
def arm : Reader Code := do
  let attrs ← r.outerCode
  let p ← r.alternatives
  let guard ← if ← keyword? "if" then pure (.word "if" :: (← r.expression).code) else pure []
  operator "=>"
  let e ← r.clause
  let head := attrs ++ p.code ++ guard ++ Code.op "=>" ++ e.code
  if e.needsComma && !(← atEnd) then
    operator ","
    return head ++ [.mark ',' false]
  else return head ++ (← operatorCode? ",")

/-- The arms of a `match`, after its attributes. -/
def matchBody : Reader Code := do
  let inner ← group .braces do
    let inner ← r.innerCode
    return inner ++ (← many (!List.isEmpty ·) r.arm).flatten
  return Code.within .braces inner

/-- A `for` loop. -/
def forCode : Reader Code := do
  keyword "for"
  let p ← r.alternatives
  keyword "in"
  let e ← r.condition
  return .word "for" :: p.code ++ .word "in" :: e.code ++ (← r.body)

/-- An expression that ends with a block of its own, if one begins here; `try` and `const` only
before braces. -/
def blockLike? : Reader (Option Code) := do
  let ts ← rest
  let braced := fun (w : String) ↦ Ahead.word w ts && Ahead.group .braces (ts.drop 1)
  if Ahead.word "if" ts then return some (← r.ifCode (ts.length + 1))
  else if Ahead.word "while" ts then
    keyword "while"
    let c ← r.condition
    return some (.word "while" :: c.code ++ (← r.body))
  else if Ahead.word "for" ts && !startsGenericsAfter "for" ts then return some (← r.forCode)
  else if Ahead.word "loop" ts then return some ((← keywordCode "loop") ++ (← r.body))
  else if Ahead.word "match" ts then
    keyword "match"
    let c ← r.condition
    return some (.word "match" :: c.code ++ (← r.matchBody))
  else if braced "try" then return some ((← keywordCode "try") ++ (← r.block))
  else if Ahead.word "unsafe" ts then return some ((← keywordCode "unsafe") ++ (← r.body))
  else if braced "const" then return some ((← keywordCode "const") ++ (← r.body))
  else if Ahead.group .braces ts then return some (← r.body)
  else return none

/-- A loop or a block with a label. -/
def labelledCode : Reader Code := do
  let l ← label
  let ts ← rest
  if Ahead.oneOf ["while", "for", "loop"] ts || Ahead.group .braces ts then
    match ← if Ahead.word "for" ts then some <$> r.forCode else r.blockLike? with
    | some code => return l ++ code
    | none => want [.labelled]
  else want [.labelled]

/-! ## Atoms -/

/-- The word that an atom consists of. -/
def wordAtom : Reader Expression := return .plain [.word (← anyWord).1]

/-- What stands between operators, without what follows it. -/
def atom (structs : Bool) : Reader Expression := do
  let ts ← rest
  if Ahead.literal ts then return .plain (← literal)
  else if startsAsync ts then
    keyword "async"
    let moved ← keywordCode? "move"
    return .plain (.word "async" :: moved ++ (← r.block))
  else if startsClosure ts then r.closureAtom structs
  else if startsBuiltIn ts then return .verbatim (← builtIn)
  else if startsPathAtom ts then r.pathAtom structs
  else if Ahead.group .parens ts then r.parenAtom
  else if Ahead.word "break" ts then r.breakAtom structs
  else if Ahead.word "continue" ts then
    keyword "continue"
    return .plain (.word "continue" :: (← lifetimeCode?))
  else if Ahead.word "return" ts then r.wordWithValue "return"
  else if Ahead.word "become" ts then r.becomeAtom
  else if Ahead.group .brackets ts then r.arrayAtom
  else if Ahead.word "let" ts then r.letAtom structs
  else if Ahead.word "yield" ts then r.wordWithValue "yield"
  else if Ahead.operator ".." ts then r.rangeFrom structs []
  else if Ahead.word "_" ts then wordAtom
  else if Ahead.lifetime ts then return .block (← r.labelledCode)
  else
    match ← r.blockLike? with
    | some code => return .block code
    | none => want [.expression]

/-- An atom with what follows it, after attributes that were written as `before`.  If it is kept as
it is written, the attributes are a part of it. -/
def trailed (structs : Bool) (attrs : Code) (before : List Tree) : Reader Expression := do
  let (e, taken) ← taking do r.trailers (← r.atom structs)
  match e.form with
  | .verbatim => return .verbatim (Tree.codeAll (before ++ taken))
  | .range dots => if attrs.isEmpty then return e else fail .rangeAttributes dots
  | _ => return e.withAttributes attrs

/-- The words after the `&` of a reference. -/
def referenceWords : Reader Code := do
  let ts ← rest
  if Ahead.word "raw" ts && Ahead.oneOf ["mut", "const"] (ts.drop 1) then
    drop 1
    return [.word "raw", .word (← anyWord).1]
  else keywordCode? "mut"

/-- What binary operators stand between: an atom with what follows it, after unary operators. -/
def operandOf (structs : Bool) : Reader Expression := do
  let (attrs, before) ← taking r.outerCode
  let ts ← rest
  if Ahead.operator "&" ts then
    operator "&"
    let words ← referenceWords
    return .plain (attrs ++ .mark '&' false :: words ++ (← r.operand structs).code)
  else
    match ['*', '!', '-'].find? fun c ↦ Ahead.operator (String.singleton c) ts with
    | some c =>
      drop 1
      return .plain (attrs ++ .mark c false :: (← r.operand structs).code)
    | none => r.trailed structs attrs before

/-- An expression that ends after a block, as in a statement or in an arm.  A block goes on only
with a point or a `?`. -/
def clauseOf : Reader Expression := do
  let attrs ← r.outerCode
  let labelled ← sees Ahead.lifetime
  match ← if labelled then some <$> r.labelledCode else r.blockLike? with
  | some code =>
    let e := Expression.block code
    if ← sees fun ts ↦ startsPoint ts || Ahead.operator "?" ts then
      r.climb true .least ((← r.trailers e).withAttributes attrs)
    else return e.withAttributes attrs
  | none => r.climb true .least ((← r.operand true).withAttributes attrs)

end Nested

end TypedIds.Grammar
