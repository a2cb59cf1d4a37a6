import TypedIds.Expansion.Units
import TypedIds.Generated.Code
import TypedIds.Grammar.Source
import TypedIds.Validity

/-!
# Expanding one struct

A struct with a marker becomes a declaration if the two are valid together, and the declaration
becomes a unit of code.  `expandMarker` does this for a marker whose arguments and struct are given
as they are, without the module around them; `Candidate.expand` does it for a struct in a module
tree.

Whatever is wrong with the struct or its arguments is a diagnostic, with two exceptions, which stop
the whole expansion: a converter that cannot be named, and a type of UUIDs that cannot be read.
-/

set_option autoImplicit false

namespace TypedIds

/-- The code that reports a diagnostic to whoever compiles the code. -/
def Diagnostic.errorCode (d : Diagnostic) : Code :=
  Generated.absolute ["core", "compile_error"] ++ Generated.mark '!' ++
    Code.within .braces [.literal (Text.quoteLiteral d.message)]

/-- The declaration of a struct with a marker, if it is valid. -/
def Declaration.ofMarked (kind : MarkerKind) (s : Struct) (m : MarkerArgs) (x : Index)
    (path : List String) : Except Diagnostic Declaration := do
  Validity.check kind s m
  let hook := Hook.detect x path s.name kind m.components m.options.check
  let defaults ← if kind.isScalar then pure [] else ComponentDefault.inferAll x m.components
  return ⟨kind, s, m.components, m.options, hook, defaults⟩

/-- The unit of a declaration in the module at `path`. -/
def Declaration.unit (d : Declaration) (path : List String) : Except NotAName GeneratedUnit :=
  d.code.map fun code ↦ ⟨unitKey path d.name d.kind, code⟩

/-- The unit of a declaration, or why there is none. -/
def unitOf (path : List String) (declaration : Except Diagnostic Declaration) :
    Except NotAName (Except Diagnostic GeneratedUnit) :=
  match declaration with
  | .error d => .ok (.error d)
  | .ok d => (d.unit path).map .ok

/-- Writes a unit and yields its code. -/
def emit (us : Units) (unit : Except Diagnostic GeneratedUnit) : Except Diagnostic Code × Units :=
  match unit with
  | .error d => (.error d, us)
  | .ok u =>
    match us.write u with
    | .error d => (.error d, us)
    | .ok us => (.ok u.code, us)

/-- The declaration that a marker makes of an item which has been read. -/
def markedItem (kind : MarkerKind) (args : List Tree) (item : Item) (span : Span) :
    Except NotAName (Except Diagnostic Declaration) :=
  match item with
  | .struct s =>
    match s.attributes.find? (·.isMarker) with
    | some a => .ok (.error ⟨.otherMarker kind, a.span⟩)
    | none => do
      let m ← MarkerArgs.parse kind args .nowhere
      return m.bind (Declaration.ofMarked kind s · .empty [])
  | _ => .ok (.error ⟨.notStruct kind, span⟩)

/-- The declaration that a marker with its arguments makes of an item. -/
def markedDeclaration (kind : MarkerKind) (args item : List Tree) :
    Except NotAName (Except Diagnostic Declaration) :=
  match Grammar.item.run .nowhere item with
  | .error d => .ok (.error d)
  | .ok i => markedItem kind args i (Tree.spanAll item)

/-- Expands a marker with its arguments on an item. -/
def expandMarker (kind : MarkerKind) (args item : List Tree) (us : Units) :
    Except NotAName (Except Diagnostic Code × Units) := do
  return emit us (← unitOf [] (← markedDeclaration kind args item))

/-- What becomes of a candidate. -/
inductive Expansion where
  /-- It has no marker. -/
  | unmarked
  | code (c : Code)
  | failed (d : Diagnostic)
  deriving Repr, Inhabited

/-- The arguments of the marker of a target. -/
def Target.arguments (t : Target) : Except NotAName (Except Diagnostic MarkerArgs) :=
  match t.marker.markerArguments with
  | .error d => .ok (.error d)
  | .ok args => MarkerArgs.parse t.kind args t.marker.span

/-- A candidate with its one marker and what the arguments of that marker say. -/
def Candidate.reading? (c : Candidate) :
    Except NotAName (Except Diagnostic (Option (Target × MarkerArgs))) :=
  match c.item.resolve c.path with
  | .error d => .ok (.error d)
  | .ok none => .ok (.ok none)
  | .ok (some t) => do
    let m ← t.arguments
    return m.map fun m ↦ some (t, m)

/-- The declaration of a candidate, if it has a marker. -/
def Candidate.declaration? (c : Candidate) (x : Index) :
    Except NotAName (Except Diagnostic (Option Declaration)) := do
  match ← c.reading? with
  | .error d => return .error d
  | .ok none => return .ok none
  | .ok (some (t, m)) => return (Declaration.ofMarked t.kind t.item m x t.path).map some

/-- Expands a candidate. -/
def Candidate.expand (c : Candidate) (x : Index) (us : Units) :
    Except NotAName (Expansion × Units) := do
  match ← c.declaration? x with
  | .ok none => return (.unmarked, us)
  | .error d => return (.failed d, us)
  | .ok (some d) =>
    match emit us (.ok (← d.unit c.path)) with
    | (.ok code, us) => return (.code code, us)
    | (.error d, us) => return (.failed d, us)

/-- The code that stands in the place of a candidate, if it is to be replaced. -/
def Candidate.replacement? (c : Candidate) : Expansion → Option Code
  | .unmarked => none
  | .code code => some code
  | .failed d => some (c.item.withoutMarkers.code ++ d.errorCode)

end TypedIds
