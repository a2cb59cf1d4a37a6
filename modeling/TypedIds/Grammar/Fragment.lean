import TypedIds.Grammar.Reader
import TypedIds.Grammar.Type
import TypedIds.Token.Number

/-!
# Fragments

Readers of the small pieces that declarations are made of and that hold no others: literals, words,
paths of plain names, visibilities, calls of macros, and the names and numbers of fields.
-/

set_option autoImplicit false

namespace TypedIds.Grammar

open Reader

/-! ## Words and literals -/

/-- The code of a literal: a negative number is two tokens. -/
def literal : Reader Code := do
  match ← rest with
  | .literal t _ :: _ => drop 1; return [.literal t]
  | .word w _ :: _ =>
    if w == "true" || w == "false" then drop 1; return [.word w] else want [.literal]
  | .mark '-' _ _ :: .literal t _ :: _ =>
    if Ahead.isNumber t then drop 2; return [.mark '-' false, .literal t] else want [.literal]
  | _ => want [.literal]

/-- The code of an ABI: `extern` and perhaps its name. -/
def abi : Reader Code := do
  if ← keyword? "extern" then
    match ← rest with
    | .literal t _ :: _ => if Ahead.isText t then drop 1; return [.word "extern", .literal t]
                           else return [.word "extern"]
    | _ => return [.word "extern"]
  else return []

/-- This word, as code. -/
def keywordCode (w : String) : Reader Code := do
  keyword w
  return [.word w]

/-- This word as code, if it is there. -/
def keywordCode? (w : String) : Reader Code := do
  if ← keyword? w then return [.word w] else return []

/-- An operator as code, if it is there. -/
def operatorCode? (op : String) : Reader Code := do
  if ← operator? op then return Code.op op else return []

/-- The semicolon that ends an item. -/
def semicolon : Reader Code := do
  operator ";"
  return [.mark ';' false]

/-- A lifetime as code, if it is there. -/
def lifetimeCode? : Reader Code := do
  match ← lifetime? with
  | some l => return [.lifetime l]
  | none => return []

/-- A name, which may be `try`. -/
def nameOrTry : Reader String := do
  if ← sees (Ahead.word "try") then return (← anyWord).1 else return (← name).1

/-- The code of a name of a built-in form with its arguments: `builtin # name (…)`. -/
def builtIn : Reader Code := do
  let ((), taken) ← taking do
    keyword "builtin"
    operator "#"
    let _ ← name
    let _ ← group .parens takeAll
  return Tree.codeAll taken

/-- Whether a built-in form comes next. -/
def startsBuiltIn (ts : List Tree) : Bool :=
  Ahead.word "builtin" ts && Ahead.operator "#" (ts.drop 1)

/-! ## Plain paths -/

/-- The words that may stand in a plain path besides names. -/
def pathWords : List String := ["super", "self", "Self", "crate"]

/-- Whether a path may begin here, which is no qualified one. -/
def startsPath (ts : List Tree) : Bool :=
  Ahead.name ts || Ahead.oneOf pathWords ts || Ahead.operator "::" ts

/-- The names of a plain path, and whether `::` came last. -/
def plainNames : (rounds : Nat) → Reader (List String × Bool)
  | 0 => do fail .tooDeep (← here)
  | n + 1 => do
    let ts ← rest
    if Ahead.name ts || Ahead.oneOf pathWords ts then
      let (w, _) ← anyWord
      if ← operator? "::" then
        let (ws, unfinished) ← plainNames n
        return (w :: ws, unfinished || ws.isEmpty)
      else return ([w], false)
    else return ([], false)

/-- A path of plain names. -/
def plainPath : Reader Path := do
  let rooted ← operator? "::"
  let (names, trailing) ← plainNames ((← rest).length + 1)
  match names.reverse with
  | [] => let _ ← name; fail (.unfit false) (← here)
  | last :: front =>
    if trailing then failHere .pathEnd
    else return Path.ofNames rooted front.reverse last

/-! ## Macros -/

/-- Whether the `!` of a macro comes next. -/
def startsMacro (ts : List Tree) : Bool := Ahead.operator "!" ts && !Ahead.operator "!=" ts

/-- What the call of a macro is given, with its delimiters. -/
def macroTrees : Reader (Delimiter × Code) := do
  let (d, inner) ← anyGroup
  return (d, Code.within d (Tree.codeAll inner))

/-- The `!` of a macro and what it is given. -/
def macroRest : Reader (Delimiter × Code) := do
  operator "!"
  let (d, trees) ← macroTrees
  return (d, .mark '!' false :: trees)

/-- How the call of a macro may begin. -/
def macroStarts : List Wanted :=
  [.name, .keyword "self", .keyword "super", .keyword "crate", .operator "::"]

/-- Whether the call of a macro may begin here. -/
def startsMacroPath (ts : List Tree) : Bool := macroStarts.any (Ahead.sees · ts)

/-! ## Visibility -/

/-- The scope of `pub` in parentheses, if the group is one. -/
def scope : Reader (Option Code) := do
  let ts ← rest
  if Ahead.oneOf ["crate", "self", "super"] ts then
    let (w, _) ← anyWord
    if ← atEnd then return some [.word w] else return none
  else if ← keyword? "in" then return some (.word "in" :: (← plainPath).code)
  else return none

/-- The visibility of an item; no code if it is not given. -/
def visibility : Reader Code := do
  if ← keyword? "pub" then
    if ← sees (Ahead.group .parens) then
      let before ← get
      match ← group .parens scope with
      | some code => return .word "pub" :: Code.within .parens code
      | none => set before; return [.word "pub"]
    else return [.word "pub"]
  else return []

/-! ## Fields -/

/-- The greatest number that a field can have. -/
def greatestIndex : Nat := 4294967295

/-- The number of a field that a literal spells, after a minus sign or not. -/
def indexOf (text : String) (negative : Bool) : Except IndexProblem Nat :=
  match WholeLiteral.ofText? text with
  | none => .error .noWholeNumber
  | some l =>
    if !l.suffix.isEmpty then .error .suffix
    else if negative then .error .sign
    else if greatestIndex < l.value then .error .tooLarge
    else .ok l.value

/-- The code of the number of a field. -/
def indexCode (n : Nat) : Code := [.literal (toString n)]

/-- The number of a field, its literal having been read. -/
def index (text : String) (negative : Bool) (s : Span) : Reader Code :=
  match indexOf text negative with
  | .ok n => return indexCode n
  | .error p => fail (.fieldIndex p) s

/-- The name or the number of a field, and whether it is a name. -/
def fieldName : Reader (Code × Bool) := do
  match ← rest with
  | .word w _ :: _ =>
    if isName w then drop 1; return ([.word w], true) else want [.fieldName]
  | .literal t s :: _ =>
    if (WholeLiteral.ofText? t).isSome then drop 1; return (← index t false s, false)
    else want [.fieldName]
  | .mark '-' _ a :: .literal t b :: _ =>
    if (WholeLiteral.ofText? t).isSome then drop 2; return (← index t true (a.to b), false)
    else want [.fieldName]
  | _ => want [.fieldName]

end TypedIds.Grammar
