import TypedIds.Token.Printer

/-!
# Types

A type as it is written in a declaration.  Paths, tuples, references, arrays, trait objects and
parentheses have their parts, because questions are asked about these; every other type is kept as
its code and its form.  `Ty.code` writes a type out: operators joined, lists with a trailing comma
only if they had one, and lifetimes before the other arguments in angle brackets.

Nothing here resolves a name: a type is a piece of text with structure.  Parentheses around a type
mean nothing, and `Ty.strip` takes them away.
-/

set_option autoImplicit false

namespace TypedIds

/-- The forms of types that are kept as code. -/
inductive TypeForm where
  | functionPointer
  | rawPointer
  | implTrait
  | never
  | inferred
  | macroCall
  | verbatim
  deriving Repr, DecidableEq, Inhabited

/-- What a type has to be or to outlive: a trait or a lifetime. -/
structure Bound where
  /-- The code, without the parentheses that may be around it. -/
  inner : Code
  parens : Bool
  /-- Where the bound ends, if it is no trait. -/
  noTrait : Option Span
  deriving Repr, DecidableEq, Inhabited

mutual

/-- A type. -/
inductive Ty where
  /-- Names with `::` between them, and before them if the path is rooted. -/
  | path (rooted : Bool) (front : List Segment) (last : Segment)
  /-- A path that begins with a type in angle brackets; `front` goes up to the last `::`. -/
  | qualified (front : Code) (last : Segment)
  | tuple (elems : List Ty) (trailing : Bool)
  | reference (lifetime : Option String) (isMut : Bool) (target : Ty)
  | array (elem : Ty) (length : Code)
  | slice (elem : Ty)
  | paren (inner : Ty)
  /-- A trait object with its bounds, and whether a `+` comes last. -/
  | object (isDyn : Bool) (bounds : List Bound) (trailing : Bool)
  | other (form : TypeForm) (code : Code)

/-- A name of a path, and its arguments. -/
inductive Segment where
  | mk (name : String) (args : Args)

/-- The arguments of a name. -/
inductive Args where
  | none
  /-- Arguments in angle brackets, with `::` before them if `turbofish`. -/
  | angle (turbofish : Bool) (args : List Arg) (trailing : Bool)

/-- An argument in angle brackets. -/
inductive Arg where
  | type (t : Ty)
  | lifetime (name : String)
  /-- A constant, or what an associated item is. -/
  | other (code : Code)

end

instance : Inhabited Ty := ⟨.tuple [] false⟩
instance : Inhabited Segment := ⟨.mk "" .none⟩

/-- The name of a segment. -/
def Segment.name : Segment → String
  | .mk n _ => n

/-- The arguments of a segment. -/
def Segment.args : Segment → Args
  | .mk _ a => a

/-- Whether there are no arguments, not even empty brackets. -/
def Args.isNone : Args → Bool
  | .none => true
  | .angle .. => false

/-- Whether there are no arguments; the brackets may be there. -/
def Args.isEmpty : Args → Bool
  | .none => true
  | .angle _ args _ => args.isEmpty

/-- The operator between the names of a path. -/
def Code.pathSep : Code := Code.op "::"

/-- Code in angle brackets. -/
def Code.angle (c : Code) : Code := .mark '<' false :: c ++ [.mark '>' false]

/-- A comma if one came last. -/
def Code.commaIf (trailing : Bool) : Code := if trailing then [.mark ',' false] else []

/-- Pieces with commas between them, and one after the last if there was one. -/
def Code.commas (pieces : List Code) (trailing : Bool) : Code :=
  Code.separate [.mark ',' false] pieces ++ Code.commaIf (trailing && !pieces.isEmpty)

/-- Pieces with commas between them, those that are lifetimes first.  A piece keeps the comma after
it, so there is a comma at the end if the last piece has moved to the front. -/
def Code.lifetimesFirst (pieces : List (Bool × Code)) (trailing : Bool) : Code :=
  let (lifetimes, others) := pieces.partition Prod.fst
  let moved := pieces.getLast?.any Prod.fst && !others.isEmpty
  Code.commas ((lifetimes ++ others).map Prod.snd) (trailing || moved)

/-- The code of a bound. -/
def Bound.code (b : Bound) : Code := if b.parens then Code.within .parens b.inner else b.inner

/-- The code of bounds with `+` between them, and after the last if one came there. -/
def Bound.codeAll (bs : List Bound) (trailing : Bool) : Code :=
  Code.separate [.mark '+' false] (bs.map Bound.code) ++
    if trailing && !bs.isEmpty then [.mark '+' false] else []

mutual

/-- The code of a type. -/
def Ty.code : Ty → Code
  | .path rooted front last =>
    (if rooted then Code.pathSep else []) ++ Segment.codeFront front ++ last.code
  | .qualified front last => front ++ last.code
  | .tuple elems trailing => Code.within .parens (Ty.codeList elems trailing)
  | .reference lifetime isMut target =>
    .mark '&' false :: (lifetime.map Token.lifetime).toList ++
      (if isMut then [.word "mut"] else []) ++ target.code
  | .array elem length => Code.within .brackets (elem.code ++ .mark ';' false :: length)
  | .slice elem => Code.within .brackets elem.code
  | .paren inner => Code.within .parens inner.code
  | .object isDyn bounds trailing =>
    (if isDyn then [.word "dyn"] else []) ++ Bound.codeAll bounds trailing
  | .other _ code => code

/-- The code of a list of types with commas. -/
def Ty.codeList : List Ty → (trailing : Bool) → Code
  | [], _ => []
  | [t], trailing => t.code ++ Code.commaIf trailing
  | t :: u :: ts, trailing => t.code ++ .mark ',' false :: Ty.codeList (u :: ts) trailing

/-- The code of a segment. -/
def Segment.code : Segment → Code
  | .mk name args => .word name :: args.code

/-- The code of segments with `::` after each. -/
def Segment.codeFront : List Segment → Code
  | [] => []
  | s :: ss => s.code ++ Code.pathSep ++ Segment.codeFront ss

/-- The code of arguments. -/
def Args.code : Args → Code
  | .none => []
  | .angle turbofish args trailing =>
    (if turbofish then Code.pathSep else []) ++
      Code.angle (Code.lifetimesFirst (Arg.codes args) trailing)

/-- The code of an argument. -/
def Arg.code : Arg → Code
  | .type t => t.code
  | .lifetime name => [.lifetime name]
  | .other code => code

/-- The code of each argument, and whether it is a lifetime. -/
def Arg.codes : List Arg → List (Bool × Code)
  | [] => []
  | .lifetime name :: as => (true, [.lifetime name]) :: Arg.codes as
  | a :: as => (false, a.code) :: Arg.codes as

end

/-- The text of a type in messages. -/
def Ty.text (t : Ty) : String := t.code.shown

/-- The text of a segment, its arguments included. -/
def Segment.text (s : Segment) : String := s.code.shown

/-! ## Paths -/

/-- A path without a qualifying type. -/
structure Path where
  rooted : Bool
  front : List Segment
  last : Segment
  deriving Inhabited

namespace Path

/-- The path as a type. -/
def toTy (p : Path) : Ty := .path p.rooted p.front p.last

/-- The code of a path. -/
def code (p : Path) : Code := p.toTy.code

/-- All segments. -/
def segments (p : Path) : List Segment := p.front ++ [p.last]

/-- The first segment. -/
def first (p : Path) : Segment := p.front.headD p.last

/-- Whether a type may begin with the path.  The word `try` may stand in a path, but no type begins
with it. -/
def beginsType (p : Path) : Bool := p.rooted || p.first.name != "try"

/-- A path of plain names. -/
def ofNames (rooted : Bool) (front : List String) (last : String) : Path :=
  ⟨rooted, front.map fun n ↦ ⟨n, .none⟩, ⟨last, .none⟩⟩

/-- The path of a name inside of what another path names. -/
def child (p : Path) (name : String) : Path := ⟨p.rooted, p.segments, ⟨name, .none⟩⟩

/-- Whether the path is one plain name. -/
def isName (p : Path) (name : String) : Bool :=
  !p.rooted && p.front.isEmpty && p.last.args.isNone && p.last.name == name

/-- Whether no segment has arguments. -/
def isPlain (p : Path) : Bool := p.segments.all (·.args.isNone)

end Path

/-! ## Questions about types -/

namespace Ty

/-- A type without the parentheses around it. -/
def strip : Ty → Ty
  | .paren t => t.strip
  | t => t

/-- The last name of a path without qualifying type, parentheses passed over. -/
def lastName? : Ty → Option String
  | .path _ _ last => some last.name
  | .paren t => t.lastName?
  | _ => none

/-- Whether a type is the empty tuple. -/
def isUnit : Ty → Bool
  | .tuple [] _ => true
  | _ => false

/-- Whether a type is a path that ends in this name, without arguments. -/
def endsIn (name : String) : Ty → Bool
  | .path _ _ last => last.name == name && last.args.isNone
  | _ => false

/-- The last segment of a path, with a qualifying type or without. -/
def lastSegment? : Ty → Option Segment
  | .path _ _ last | .qualified _ last => some last
  | _ => none

/-- `T` for a path that ends in `name<T, …>`. -/
def argumentOf? (name : String) (t : Ty) : Option Ty :=
  match t.lastSegment? with
  | some (.mk n (.angle _ (.type inner :: _) _)) => if n == name then some inner else none
  | _ => none

@[simp] theorem strip_paren (t : Ty) : (paren t).strip = t.strip := rfl

end Ty

end TypedIds
