import TypedIds.Grammar.Attribute.Reader

/-!
# Reading paths

In a type the arguments of a name follow it at once, as in `Vec<u8>`; in an expression they need a
`::` before them, since `<` is an operator there.  A reader is told by `direct` which of the two it
is.
-/

set_option autoImplicit false

namespace TypedIds.Grammar

open Reader

/-- The last of some segments, and those before it. -/
def splitLast (s : Segment) : List Segment → List Segment × Segment
  | [] => ([], s)
  | t :: ts => let (front, last) := splitLast t ts; (s :: front, last)

/-- Whether arguments in angle brackets follow a name. -/
def startsArguments (direct : Bool) (ts : List Tree) : Bool :=
  direct && Ahead.operator "<" ts && !Ahead.operator "<=" ts && !Ahead.operator "<<=" ts ||
    Ahead.operator "::" ts && Ahead.operator "<" (ts.drop 2)

namespace Nested

variable (r : Nested)

/-- A name of a path with its arguments. -/
def segment (direct : Bool) : Reader Segment := do
  if ← sees (Ahead.oneOf ["super", "self", "crate", "try"]) then return ⟨(← anyWord).1, .none⟩
  let (w, _) ← if ← sees (Ahead.word "Self") then anyWord else name
  if ← sees (startsArguments direct) then return ⟨w, ← r.arguments⟩ else return ⟨w, .none⟩

/-- Further segments of a path, for as long as `go` holds. -/
def moreSegments (direct : Bool) (go : List Tree → Bool) : Reader (List Segment) :=
  many go do operator "::"; r.segment direct

/-- A path without qualifying type. -/
def pathWith (direct : Bool) : Reader Path := do
  let rooted ← operator? "::"
  let first ← r.segment direct
  let more ← r.moreSegments direct fun ts ↦
    Ahead.operator "::" ts && !Ahead.group .parens (ts.drop 2)
  let (front, last) := splitLast first more
  return ⟨rooted, front, last⟩

/-- A path as it stands in a type. -/
def path : Reader Path := r.pathWith true

/-- A path that begins with a type in angle brackets: what stands before the last name, and that
name. -/
def qualified (direct : Bool) : Reader (Code × Segment) := do
  operator "<"
  let t ← r.type true
  let as ← if ← keyword? "as" then pure (.word "as" :: (← r.path).code) else pure []
  operator ">"
  operator "::"
  let first ← r.segment direct
  let more ← r.moreSegments direct (Ahead.operator "::")
  let (front, last) := splitLast first more
  return (Code.angle (t.code ++ as) ++ Code.pathSep ++ Segment.codeFront front, last)

/-- A path as it stands in an expression, and whether a `!` after it makes it the call of a
macro. -/
def expressionPath : Reader (Code × Bool) := do
  if ← sees (Ahead.operator "<") then
    let (front, last) ← r.qualified false
    return (front ++ last.code, false)
  else
    let p ← r.pathWith false
    return (p.code, p.isPlain)

end Nested

end TypedIds.Grammar
