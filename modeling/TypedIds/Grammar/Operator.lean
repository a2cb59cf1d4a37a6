import TypedIds.Grammar.Reader

/-!
# Operators between expressions

The operators that stand between two expressions, and how tightly they bind.  They are looked for in
a fixed order, longer ones before those that they begin with.
-/

set_option autoImplicit false

namespace TypedIds

/-- How tightly an operator binds, the loosest first. -/
inductive Precedence where
  | least
  | assign
  | range
  | or
  | and
  | compare
  | bitOr
  | bitXor
  | bitAnd
  | shift
  | sum
  | product
  | cast
  deriving Repr, DecidableEq, Inhabited

namespace Precedence

/-- The place of a precedence in their order. -/
def level : Precedence → Nat
  | least => 0
  | assign => 1
  | range => 2
  | or => 3
  | and => 4
  | compare => 5
  | bitOr => 6
  | bitXor => 7
  | bitAnd => 8
  | shift => 9
  | sum => 10
  | product => 11
  | cast => 12

/-- Whether the first precedence is at least as tight as the second. -/
def reaches (p base : Precedence) : Bool := base.level ≤ p.level

end Precedence

namespace Grammar

/-- The binary operators in the order in which they are looked for. -/
def binaryOperators : List (String × Precedence) :=
  [("+=", .assign), ("-=", .assign), ("*=", .assign), ("/=", .assign), ("%=", .assign),
   ("^=", .assign), ("&=", .assign), ("|=", .assign), ("<<=", .assign), (">>=", .assign),
   ("&&", .and), ("||", .or), ("<<", .shift), (">>", .shift), ("==", .compare), ("<=", .compare),
   ("!=", .compare), (">=", .compare), ("+", .sum), ("-", .sum), ("*", .product), ("/", .product),
   ("%", .product), ("^", .bitXor), ("&", .bitAnd), ("|", .bitOr), ("<", .compare),
   (">", .compare)]

/-- The binary operator that comes next. -/
def binary? (ts : List Tree) : Option (String × Precedence) :=
  binaryOperators.find? fun o ↦ Ahead.operator o.1 ts

/-- Whether an assignment comes next. -/
def startsAssignment (ts : List Tree) : Bool :=
  Ahead.operator "=" ts && !Ahead.operator "=>" ts

/-- The precedence of the operator that comes next; the least one if there is none. -/
def nextPrecedence (ts : List Tree) : Precedence :=
  match binary? ts with
  | some (_, p) => p
  | none =>
    if startsAssignment ts then .assign
    else if Ahead.operator ".." ts then .range
    else if Ahead.word "as" ts then .cast
    else .least

end Grammar

end TypedIds
