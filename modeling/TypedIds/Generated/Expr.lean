import TypedIds.Text.Quoted
import TypedIds.Grammar.Type

/-!
# Expressions of generated code

The bodies of generated functions are values of a small language: calls, fields, borrowing,
closures, and a handful of statements.  Names and types in it are code.  So it can be asked which
functions a body calls and in what order it writes things, and `Expr.code` writes it out.
-/

set_option autoImplicit false

namespace TypedIds.Generated

mutual

/-- An expression. -/
inductive Expr where
  /-- A name or a path. -/
  | name (code : Code)
  /-- A text in quotes. -/
  | text (s : String)
  | call (callee : Code) (args : List Expr)
  | method (receiver : Expr) (name : String) (args : List Expr)
  /-- The value of a result, or an early return of its error. -/
  | propagate (e : Expr)
  | field (receiver : Expr) (name : String)
  /-- A component of a tuple, counted from zero. -/
  | index (receiver : Expr) (i : Nat)
  | borrow (e : Expr)
  | tuple (es : List Expr)
  /-- A struct with the field `value`; without an expression, the variable of that name. -/
  | construct (type : Code) (value : Option Expr)
  | closure (params : Code) (body : Expr)
  | equal (a b : Expr)
  | block (stmts : List Stmt) (result : Expr)

/-- A statement. -/
inductive Stmt where
  | bind (name : String) (type : Option Code) (e : Expr)
  /-- A variable that is shared by all calls. -/
  | shared (name : String) (type : Code) (e : Expr)
  | run (e : Expr)
  | returnIf (condition result : Expr)
  /-- Runs statements with the value inside an `Option`, if there is one. -/
  | ifSome (name : String) (scrutinee : Expr) (stmts : List Stmt)

end

instance : Inhabited Expr := ⟨.text ""⟩

/-! ## Writing out -/

/-- A path that begins with `::`. -/
def absolute (names : List String) : Code := names.flatMap fun n ↦ Code.op "::" ++ [.word n]

/-- A path inside of another. -/
def within (path : Code) (names : List String) : Code := path ++ absolute names

/-- A word as code. -/
def word (w : String) : Code := [.word w]

/-- A punctuation character as code. -/
def mark (c : Char) : Code := [.mark c false]

/-- `Self`. -/
def selfType : Code := word "Self"

/-- A member of a type as that of a trait. -/
def asTrait (type trait : Code) : Code := Code.angle (type ++ word "as" ++ trait)

/-- The parameters of a closure between their bars. -/
def bars (params : Code) : Code :=
  if params.isEmpty then Code.op "||" else mark '|' ++ params ++ mark '|'

/-- `Some` of an `Option`. -/
def somePath : Code := absolute ["core", "option", "Option", "Some"]

mutual

/-- The code of an expression. -/
def Expr.code : Expr → Code
  | .name code => code
  | .text s => [.literal (Text.quoteLiteral s)]
  | .call callee args => callee ++ Code.within .parens (Expr.codeList args)
  | .method receiver name args =>
    receiver.code ++ mark '.' ++ word name ++ Code.within .parens (Expr.codeList args)
  | .propagate e => e.code ++ mark '?'
  | .field receiver name => receiver.code ++ mark '.' ++ word name
  | .index receiver i => receiver.code ++ mark '.' ++ [.literal (toString i)]
  | .borrow e => mark '&' ++ e.code
  | .tuple es => Code.within .parens (Expr.codeTerminated es)
  | .construct type none => type ++ Code.within .braces (word "value")
  | .construct type (some e) =>
    type ++ Code.within .braces (word "value" ++ mark ':' ++ e.code)
  | .closure params body => bars params ++ body.code
  | .equal a b => a.code ++ Code.op "==" ++ b.code
  | .block stmts result => Code.within .braces (Stmt.codeAll stmts ++ result.code)

/-- The code of expressions with commas between them. -/
def Expr.codeList : List Expr → Code
  | [] => []
  | [e] => e.code
  | e :: f :: es => e.code ++ mark ',' ++ Expr.codeList (f :: es)

/-- The code of expressions with a comma after each. -/
def Expr.codeTerminated : List Expr → Code
  | [] => []
  | e :: es => e.code ++ mark ',' ++ Expr.codeTerminated es

/-- The code of a statement. -/
def Stmt.code : Stmt → Code
  | .bind name none e => word "let" ++ word name ++ mark '=' ++ e.code ++ mark ';'
  | .bind name (some t) e =>
    word "let" ++ word name ++ mark ':' ++ t ++ mark '=' ++ e.code ++ mark ';'
  | .shared name t e =>
    word "static" ++ word name ++ mark ':' ++ t ++ mark '=' ++ e.code ++ mark ';'
  | .run e => e.code ++ mark ';'
  | .returnIf condition result =>
    word "if" ++ condition.code ++
      Code.within .braces (word "return" ++ result.code ++ mark ';')
  | .ifSome name scrutinee stmts =>
    word "if" ++ word "let" ++ somePath ++ Code.within .parens (word name) ++ mark '=' ++
      scrutinee.code ++ Code.within .braces (Stmt.codeAll stmts)

/-- The code of some statements. -/
def Stmt.codeAll : List Stmt → Code
  | [] => []
  | s :: ss => s.code ++ Stmt.codeAll ss

end

/-! ## Common expressions -/

/-- A variable. -/
def Expr.var (name : String) : Expr := .name (word name)

/-- The value that an identifier wraps. -/
def Expr.wrapped : Expr := .field (.var "self") "value"

/-- A copy of a value that is borrowed. -/
def Expr.clone (e : Expr) : Expr := .call (absolute ["core", "clone", "Clone", "clone"]) [e]

/-- A result that is no error. -/
def Expr.ok (e : Expr) : Expr := .call (absolute ["core", "result", "Result", "Ok"]) [e]

/-- A call of a function of the type itself. -/
def Expr.ownCall (name : String) (args : List Expr) : Expr :=
  .call (within selfType [name]) args

end TypedIds.Generated
