import TypedIds.Grammar.Expression.Reader

/-!
# Reading statements

A statement is an item, a `let`, the call of a macro with braces, or an expression.  Which of them
it is, is told by its first words; a macro whose `!` is followed by a name is an item.  An
expression without a semicolon ends a block, unless it ends with a block of its own.
-/

set_option autoImplicit false

namespace TypedIds.Grammar

open Reader

/-- Whether an item begins here, after its attributes. -/
def startsItem (ts : List Tree) : Bool :=
  let next := ts.drop 1
  let last := ts.drop 2
  let functionWords := ["unsafe", "extern", "fn"]
  Ahead.oneOf ["pub", "extern", "use", "fn", "mod", "type", "struct", "enum", "trait", "impl",
      "macro"] ts ||
    Ahead.word "crate" ts && !Ahead.operator "::" next ||
    Ahead.word "static" ts &&
      (Ahead.word "mut" next || Ahead.name next &&
        !(Ahead.word "async" next && (Ahead.word "move" last || Ahead.operator "|" last))) ||
    Ahead.word "const" ts &&
      !(Ahead.group .braces next || Ahead.oneOf ["static", "move"] next ||
        Ahead.operator "|" next ||
        Ahead.word "async" next && !Ahead.oneOf functionWords last) ||
    Ahead.word "unsafe" ts && !Ahead.group .braces next ||
    Ahead.word "async" ts && Ahead.oneOf functionWords next ||
    Ahead.word "union" ts && Ahead.name next ||
    Ahead.word "auto" ts && Ahead.word "trait" next ||
    Ahead.word "default" ts && Ahead.oneOf ["unsafe", "impl"] next

/-- What follows the `!` after a plain path, if these come next. -/
def afterMacroName? : Reader (Option (List Tree)) := do
  let (path, ts) ← after (attempt plainPath)
  return if path.isSome && Ahead.operator "!" ts then some (ts.drop 1) else none

/-- Whether what follows the `!` of a macro makes it an item. -/
def namesMacroItem (ts : List Tree) : Bool := Ahead.name ts || Ahead.word "try" ts

/-- Whether what follows the `!` of a macro makes it a statement of its own: braces that no point
and no `?` follows. -/
def endsMacroStatement (ts : List Tree) : Bool :=
  Ahead.group .braces ts && !(startsPoint (ts.drop 1) || Ahead.operator "?" (ts.drop 1))

namespace Nested

variable (r : Nested)

/-- A `let` statement. -/
def letStatement : Reader Code := do
  keyword "let"
  let p ← r.pattern
  let type ← if ← operator? ":" then pure (.mark ':' false :: (← r.type true).code) else pure []
  let value ←
    if ← operator? "=" then
      let e ← r.expression
      let other ←
        if !e.endsWithBrace && (← sees (Ahead.word "else")) then
          keyword "else"
          pure (.word "else" :: (← r.block))
        else pure []
      pure (.mark '=' false :: e.code ++ other)
    else pure []
  operator ";"
  return .word "let" :: p.code ++ type ++ value ++ [.mark ';' false]

/-- A statement, and whether it has to be ended if another one follows. -/
def statement : Reader (Code × Bool) := do
  let before ← get
  let attrs ← r.outerCode
  let ts ← rest
  let macroTail := (← afterMacroName?).getD []
  if endsMacroStatement macroTail then
    let path ← plainPath
    let (_, args) ← macroRest
    return (attrs ++ path.code ++ args ++ (← operatorCode? ";"), false)
  else if Ahead.word "let" ts then return (attrs ++ (← r.letStatement), false)
  else if startsItem ts || namesMacroItem macroTail then
    set before
    return ((← r.item).code, false)
  else
    let e ← r.clause
    let code := (e.withAttributes attrs).code
    if ← operator? ";" then return (code ++ [.mark ';' false], false)
    else return (code, e.needsSemicolon)

/-- Statements to the end of the trees. -/
def statementsFor : (rounds : Nat) → Reader Code
  | 0 => do fail .tooDeep (← here)
  | n + 1 => do
    if ← operator? ";" then return .mark ';' false :: (← statementsFor n)
    if ← atEnd then return []
    let (code, open_) ← r.statement
    if ← atEnd then return code
    if open_ then fail .statementEnd (← here)
    return code ++ (← statementsFor n)

/-- Statements to the end of the trees. -/
def statementsOf : Reader Code := do r.statementsFor ((← rest).length + 1)

end Nested

end TypedIds.Grammar
