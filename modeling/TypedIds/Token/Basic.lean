/-!
# Tokens

A source text is read as a list of `Tree`s: words, lifetimes, literals and punctuation characters,
each with the span of text that it came from, and groups between matching delimiters.  What is
written out again has no place, so it is a plain list of `Token`s, called `Code`; there a group is
an opening and a closing delimiter with the group's code between them.

Every punctuation character is a token of its own.  Whether it is joined to the next one, as the
first `:` of `::` is, is kept as a flag; it tells the operator `::` from two colons.
-/

set_option autoImplicit false

namespace TypedIds

/-! ## Places -/

/-- A place in a text: lines count from one, columns from zero. -/
structure Place where
  line : Nat
  column : Nat
  deriving Repr, DecidableEq, Inhabited

/-- The place where every text starts. -/
def Place.origin : Place := ⟨1, 0⟩

/-- The place after one more character. -/
def Place.next (p : Place) (c : Char) : Place :=
  if c == '\n' then ⟨p.line + 1, 0⟩ else ⟨p.line, p.column + 1⟩

/-- The place after some more characters. -/
def Place.after (p : Place) (cs : List Char) : Place := cs.foldl Place.next p

/-- The stretch of text between two places. -/
structure Span where
  start : Place
  stop : Place
  deriving Repr, DecidableEq, Inhabited

/-- The span of what has no place of its own. -/
def Span.nowhere : Span := ⟨.origin, .origin⟩

/-- From the start of one span to the end of another. -/
def Span.to (a b : Span) : Span := ⟨a.start, b.stop⟩

/-- The first character of a span. -/
def Span.firstChar (s : Span) : Span :=
  if s.start = s.stop then s else ⟨s.start, ⟨s.start.line, s.start.column + 1⟩⟩

/-- The last character of a span. -/
def Span.lastChar (s : Span) : Span :=
  if s.start = s.stop then s else ⟨⟨s.stop.line, s.stop.column - 1⟩, s.stop⟩

/-! ## Trees with places -/

/-- The three kinds of delimiters. -/
inductive Delimiter where
  | parens
  | brackets
  | braces
  deriving Repr, DecidableEq, Inhabited

/-- The opening character. -/
def Delimiter.opening : Delimiter → Char
  | .parens => '('
  | .brackets => '['
  | .braces => '\x7b'

/-- The closing character. -/
def Delimiter.closing : Delimiter → Char
  | .parens => ')'
  | .brackets => ']'
  | .braces => '\x7d'

/-- A token of a source text, or a group of them. -/
inductive Tree where
  /-- An identifier or keyword, its raw mark included. -/
  | word (text : String) (span : Span)
  /-- A lifetime without its quote, the place of the quote, and the whole span. -/
  | lifetime (name : String) (quote span : Span)
  /-- A literal, as it is spelled. -/
  | literal (text : String) (span : Span)
  /-- A punctuation character, and whether another one follows at once. -/
  | mark (c : Char) (joined : Bool) (span : Span)
  /-- What stands between two delimiters; the span includes them. -/
  | group (d : Delimiter) (inner : List Tree) (span : Span)
  deriving Repr, Inhabited

/-- The whole span of a tree. -/
def Tree.span : Tree → Span
  | .word _ s | .lifetime _ _ s | .literal _ s | .mark _ _ s | .group _ _ s => s

/-- Where an error about a single token points: a group is pointed to by its opening delimiter, a
lifetime by its quote. -/
def Tree.pointer : Tree → Span
  | .group _ _ s => s.firstChar
  | .lifetime _ quote _ => quote
  | t => t.span

/-- The span of a token that was left over: a lifetime still counts as its quote. -/
def Tree.leftoverSpan : Tree → Span
  | .lifetime _ quote _ => quote
  | t => t.span

mutual

/-- The same tree with every span replaced. -/
def Tree.respan (s : Span) : Tree → Tree
  | .word t _ => .word t s
  | .lifetime n _ _ => .lifetime n s s
  | .literal t _ => .literal t s
  | .mark c j _ => .mark c j s
  | .group d inner _ => .group d (Tree.respanAll s inner) s

/-- The same trees with every span replaced. -/
def Tree.respanAll (s : Span) : List Tree → List Tree
  | [] => []
  | t :: ts => t.respan s :: Tree.respanAll s ts

end

mutual

/-- How many tokens a tree holds. -/
def Tree.size : Tree → Nat
  | .group _ inner _ => Tree.sizeAll inner + 1
  | _ => 1

/-- How many tokens some trees hold. -/
def Tree.sizeAll : List Tree → Nat
  | [] => 0
  | t :: ts => t.size + Tree.sizeAll ts

end

/-- From the first to the last of some trees; nowhere if there is none. -/
def Tree.spanAll (ts : List Tree) : Span :=
  match ts.head?, ts.getLast? with
  | some a, some b => a.span.to b.span
  | _, _ => .nowhere

/-! ## Code without places -/

/-- A token as it is written out. -/
inductive Token where
  | word (text : String)
  | lifetime (name : String)
  | literal (text : String)
  | mark (c : Char) (joined : Bool)
  | opening (d : Delimiter)
  | closing (d : Delimiter)
  deriving Repr, DecidableEq, Inhabited

/-- A piece of program text. -/
abbrev Code := List Token

/-- Code between delimiters. -/
def Code.within (d : Delimiter) (c : Code) : Code := .opening d :: c ++ [.closing d]

mutual

/-- A tree without its places. -/
def Tree.code : Tree → Code
  | .word t _ => [.word t]
  | .lifetime n _ _ => [.lifetime n]
  | .literal t _ => [.literal t]
  | .mark c j _ => [.mark c j]
  | .group d inner _ => Code.within d (Tree.codeAll inner)

/-- Trees without their places. -/
def Tree.codeAll : List Tree → Code
  | [] => []
  | t :: ts => t.code ++ Tree.codeAll ts

end

/-- An operator: its characters, joined. -/
def Code.ofMarks : List Char → Code
  | [] => []
  | [c] => [.mark c false]
  | c :: cs => .mark c true :: Code.ofMarks cs

/-- An operator, given as a text. -/
def Code.op (s : String) : Code := Code.ofMarks s.toList

/-- Pieces of code with an operator between neighbours. -/
def Code.separate (between : Code) (cs : List Code) : Code := between.intercalate cs

/-- Pieces of code, each followed by an operator. -/
def Code.terminate (after : Code) (cs : List Code) : Code := cs.flatMap (· ++ after)

end TypedIds
