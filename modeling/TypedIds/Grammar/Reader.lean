import TypedIds.Diagnostic
import TypedIds.Token.Name

/-!
# Reading trees

A `Reader` takes trees from the front of a list and yields a value, or a diagnostic.  It knows its
*scope*: the span that an error has when the trees have come to an end, which inside a group is the
closing delimiter.

Trees that are left over at the end of a group are no error at once.  The first such tree is
remembered, and it is the error if all the rest can be read (`Reader.run`).

Looking ahead is done on the list of trees itself, so those tests are plain functions to `Bool`.
-/

set_option autoImplicit false

namespace TypedIds

/-! ## Looking ahead -/

namespace Ahead

/-- Whether the trees begin with an operator.  A shorter operator begins a longer one. -/
def marks : List Char → List Tree → Bool
  | [c], .mark d _ _ :: _ => c == d
  | c :: cs, .mark d joined _ :: rest => c == d && joined && marks cs rest
  | _, _ => false

/-- Whether the trees begin with an operator, given as a text. -/
def operator (op : String) (ts : List Tree) : Bool := marks op.toList ts

/-- Whether the trees begin with this word. -/
def word (w : String) : List Tree → Bool
  | .word v _ :: _ => v == w
  | _ => false

/-- Whether the trees begin with one of these words. -/
def oneOf (ws : List String) : List Tree → Bool
  | .word v _ :: _ => ws.contains v
  | _ => false

/-- Whether the trees begin with any word. -/
def anyWord : List Tree → Bool
  | .word _ _ :: _ => true
  | _ => false

/-- Whether the trees begin with a name. -/
def name : List Tree → Bool
  | .word w _ :: _ => isName w
  | _ => false

/-- Whether the trees begin with a lifetime. -/
def lifetime : List Tree → Bool
  | .lifetime .. :: _ => true
  | _ => false

/-- Whether the trees begin with a group between these delimiters. -/
def group (d : Delimiter) : List Tree → Bool
  | .group e _ _ :: _ => d == e
  | _ => false

/-- Whether the text of a literal is a number. -/
def isNumber (text : String) : Bool := text.toList.head?.any Char.isDigit

/-- Whether the trees begin with a literal: a truth value and a negative number are literals. -/
def literal : List Tree → Bool
  | .literal _ _ :: _ => true
  | .word w _ :: _ => w == "true" || w == "false"
  | .mark '-' _ _ :: .literal t _ :: _ => isNumber t
  | _ => false

/-- Whether the text of a literal is that of a string. -/
def isText (text : String) : Bool :=
  match text.toList with
  | '\x22' :: _ => true
  | 'r' :: '\x22' :: _ | 'r' :: '#' :: _ => true
  | _ => false

/-- Whether the trees begin with a string literal. -/
def text : List Tree → Bool
  | .literal t _ :: _ => isText t
  | _ => false

/-- Whether what is wanted comes next. -/
def sees : Wanted → List Tree → Bool
  | .keyword w => word w
  | .operator m => operator m
  | .name => name
  | .anyWord => anyWord
  | .lifetime => lifetime
  | .literal => literal
  | .textLiteral => text
  | .truthLiteral => oneOf ["true", "false"]
  | .group d => group d
  | .anyGroup => fun ts ↦ group .parens ts || group .brackets ts || group .braces ts
  | .nameOrUnderscore => fun ts ↦ name ts || word "_" ts
  | .expression | .labelled | .fieldName | .rangeEnd => fun _ ↦ false

end Ahead

/-! ## Readers -/

/-- What a reader works on. -/
structure Cursor where
  trees : List Tree
  /-- Where the end of the trees is. -/
  scope : Span
  /-- The first tree that was left over at the end of a group, as an error. -/
  leftover : Option Diagnostic
  deriving Repr, Inhabited

/-- Takes trees from the front of a list. -/
abbrev Reader := StateT Cursor (Except Diagnostic)

namespace Reader

variable {α β : Type}

/-- The trees that have not been read. -/
def rest : Reader (List Tree) := fun c ↦ .ok (c.trees, c)

/-- Whether a test holds of the trees that have not been read. -/
def sees (test : List Tree → Bool) : Reader Bool := fun c ↦ .ok (test c.trees, c)

/-- Whether all trees have been read. -/
def atEnd : Reader Bool := sees List.isEmpty

/-- Where an error about the next token points. -/
def here : Reader Span := fun c ↦
  .ok (match c.trees with | t :: _ => t.pointer | [] => c.scope, c)

/-- Fails with a problem. -/
def fail (p : Problem) (s : Span) : Reader α := fun _ ↦ .error ⟨p, s⟩

/-- Fails at the next token with a problem that tells whether there is one. -/
def failHere (p : (atEnd : Bool) → Problem) : Reader α := do
  fail (p (← atEnd)) (← here)

/-- Fails at the next token because something else is wanted. -/
def want (ws : List Wanted) : Reader α := failHere (.wanted ws)

/-- Passes over some trees. -/
def drop (n : Nat) : Reader Unit := fun c ↦ .ok ((), { c with trees := c.trees.drop n })

/-- An operator.  That it is missing is not told from the end of the trees. -/
def operator (op : String) : Reader Unit := do
  if ← sees (Ahead.operator op) then drop op.length
  else fail (.wanted [.operator op] false) (← here)

/-- An operator if it is there. -/
def operator? (op : String) : Reader Bool := do
  let found ← sees (Ahead.operator op)
  if found then drop op.length
  return found

/-- This word. -/
def keyword (w : String) : Reader Unit := do
  if ← sees (Ahead.word w) then drop 1 else want [.keyword w]

/-- This word if it is there. -/
def keyword? (w : String) : Reader Bool := do
  let found ← sees (Ahead.word w)
  if found then drop 1
  return found

/-- Any word, keywords included, and its span. -/
def anyWord : Reader (String × Span) := do
  match ← rest with
  | .word w s :: _ => drop 1; return (w, s)
  | _ => want [.anyWord]

/-- A name and its span. -/
def name : Reader (String × Span) := do
  match ← rest with
  | .word w s :: _ => if isName w then drop 1; return (w, s) else fail (.keywordAsName w) s
  | _ => want [.name]

/-- A lifetime, without its quote. -/
def lifetime : Reader String := do
  match ← rest with
  | .lifetime n _ _ :: _ => drop 1; return n
  | _ => want [.lifetime]

/-- A lifetime if it is there. -/
def lifetime? : Reader (Option String) := do
  if ← sees Ahead.lifetime then return some (← lifetime) else return none

/-- Reads the whole of a group with a reader for what is inside. -/
def inside (inner : List Tree) (d : Delimiter) (s : Span) (p : Reader α) : Reader α := fun c ↦ do
  let (a, after) ← p ⟨inner, s.lastChar, none⟩
  let left := (after.trees.head?).map fun t ↦ Diagnostic.mk (.leftover (some d)) t.leftoverSpan
  let leftover := c.leftover.or (after.leftover.or left)
  return (a, { c with trees := c.trees.drop 1, leftover })

/-- A group between these delimiters, what is inside being read with `p`. -/
def group (d : Delimiter) (p : Reader α) : Reader α := do
  match ← rest with
  | .group e inner s :: _ => if d = e then inside inner d s p else want [.group d]
  | _ => want [.group d]

/-- A group between any delimiters, unread. -/
def anyGroup : Reader (Delimiter × List Tree) := do
  match ← rest with
  | .group d inner _ :: _ => drop 1; return (d, inner)
  | _ => want [.anyGroup]

/-- Takes all trees that are left. -/
def takeAll : Reader (List Tree) := fun c ↦ .ok (c.trees, { c with trees := [] })

/-- Also yields the trees that a reader has taken. -/
def taking (p : Reader α) : Reader (α × List Tree) := fun c ↦ do
  let (a, after) ← p c
  return ((a, c.trees.take (c.trees.length - after.trees.length)), after)

/-- What a reader yields, and the trees that would come after it, without moving on. -/
def after (p : Reader α) : Reader (α × List Tree) := fun c ↦ do
  let (a, next) ← p c
  return ((a, next.trees), c)

/-- Tries a reader and goes back if it fails. -/
def attempt (p : Reader α) : Reader (Option α) := fun c ↦
  match p c with
  | .ok (a, after) => .ok (some a, after)
  | .error _ => .ok (none, c)

/-- Replaces the diagnostic of a reader that fails. -/
def mapError (f : Diagnostic → Diagnostic) (p : Reader α) : Reader α := fun c ↦
  (p c).mapError f

/-- Items with separators between them, until `stop` holds; whether a separator came last (or there
is no item).  There are at most as many items as `rounds`. -/
def separatedFor (separator : Reader Unit) (stop : List Tree → Bool) (item : Reader α) :
    (rounds : Nat) → Reader (List α × Bool)
  | 0 => do fail .tooDeep (← here)
  | n + 1 => do
    if ← sees stop then return ([], true)
    let a ← item
    if ← sees stop then return ([a], false)
    separator
    let (as, trailing) ← separatedFor separator stop item n
    return (a :: as, trailing)

/-- Items with separators between them, until `stop` holds.  An item takes a tree, so there are at
most as many as trees. -/
def separated (separator : Reader Unit) (stop : List Tree → Bool) (item : Reader α) :
    Reader (List α × Bool) := do
  separatedFor separator stop item ((← rest).length + 1)

/-- Items with commas between them, to the end of the trees. -/
def commaList (item : Reader α) : Reader (List α × Bool) :=
  separated (operator ",") List.isEmpty item

/-- Items, one after the other, for as long as `go` holds. -/
def manyFor (go : List Tree → Bool) (item : Reader α) : (rounds : Nat) → Reader (List α)
  | 0 => do fail .tooDeep (← here)
  | n + 1 => do
    if ← sees go then
      let a ← item
      return a :: (← manyFor go item n)
    else return []

/-- Items, one after the other, for as long as `go` holds. -/
def many (go : List Tree → Bool) (item : Reader α) : Reader (List α) := do
  manyFor go item ((← rest).length + 1)

/-- Reads the whole of a list of trees. -/
def run (p : Reader α) (scope : Span) (ts : List Tree) : Except Diagnostic α := do
  let (a, c) ← p ⟨ts, scope, none⟩
  match c.leftover, c.trees with
  | some d, _ => throw d
  | none, t :: _ => throw ⟨.leftover none, t.leftoverSpan⟩
  | none, [] => return a

end Reader

end TypedIds
