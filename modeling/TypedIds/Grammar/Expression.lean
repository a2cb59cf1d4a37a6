import TypedIds.Token.Basic

/-!
# Expressions and patterns

Expressions and patterns are kept as their code, in which operators are joined as they were meant:
`1+-1` and `1 + - 1` have the same code.  Beside the code there is what the reader has to know in
order to go on.
-/

set_option autoImplicit false

namespace TypedIds

/-- The forms of expressions that are told apart. -/
inductive ExpressionForm where
  /-- An expression that ends with a block of its own, such as a loop: it needs no semicolon to be
  a statement and no comma to be the end of a `match` arm. -/
  | block
  /-- The call of a macro; with braces it needs no semicolon to be a statement. -/
  | macroCall (d : Delimiter)
  /-- A range, with the span of its dots: no other operator may follow it. -/
  | range (dots : Span)
  /-- A comparison, which cannot be compared again. -/
  | comparison
  /-- An expression that is kept as it is written. -/
  | verbatim
  | other
  deriving Repr, DecidableEq, Inhabited

/-- An expression. -/
structure Expression where
  form : ExpressionForm
  code : Code
  /-- Whether attributes before the expression are lost: it begins with one that is kept as it is
  written, which has no place for them. -/
  losesAttributes : Bool
  deriving Repr, DecidableEq, Inhabited

namespace Expression

/-- An expression of no form that is told apart. -/
def plain (code : Code) : Expression := ⟨.other, code, false⟩

/-- An expression that ends with a block of its own. -/
def block (code : Code) : Expression := ⟨.block, code, false⟩

/-- An expression that is kept as it is written. -/
def verbatim (code : Code) : Expression := ⟨.verbatim, code, true⟩

/-- Whether an expression is a range. -/
def isRange (e : Expression) : Bool :=
  match e.form with
  | .range _ => true
  | _ => false

/-- An expression with attributes before it.  They bind more tightly than the dots of a range, which
gets parentheses for that reason. -/
def withAttributes (attrs : Code) (e : Expression) : Expression :=
  if attrs.isEmpty || e.losesAttributes then e
  else if e.isRange then { e with code := attrs ++ Code.within .parens e.code }
  else { e with code := attrs ++ e.code }

/-- An expression with more code after it. -/
def followed (e : Expression) (after : Code) : Expression := .plain (e.code ++ after)

/-- Whether a comma has to follow an expression that is not the last in its list of arms. -/
def needsComma (e : Expression) : Bool := e.form != .block

/-- Whether a semicolon has to follow an expression that is not the last statement. -/
def needsSemicolon (e : Expression) : Bool :=
  e.form != .block && e.form != .macroCall .braces

/-- Whether an expression ends with a brace. -/
def endsWithBrace (e : Expression) : Bool := e.code.getLast? == some (.closing .braces)

end Expression

/-- A pattern. -/
structure Pattern where
  code : Code
  /-- The dots of a range that has no start or no end. -/
  openRange : Option Span
  /-- Whether the pattern is kept as it is written, so that attributes before it are lost. -/
  isVerbatim : Bool
  deriving Repr, DecidableEq, Inhabited

/-- A pattern of no special form. -/
def Pattern.plain (code : Code) : Pattern := ⟨code, none, false⟩

end TypedIds
