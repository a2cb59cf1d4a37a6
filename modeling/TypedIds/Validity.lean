import TypedIds.Grammar.Struct
import TypedIds.Marker.Args

/-!
# Valid declarations

Before any code is generated, a declaration is checked in this order: the struct is neither generic
nor has fields; it derives no trait that is generated; a combined identifier has two to eight
components; no two members would have one name.
-/

set_option autoImplicit false

namespace TypedIds

namespace Validity

/-- The least and the greatest number of components of a combined identifier. -/
def leastComponents : Nat := 2

/-- The greatest number of components of a combined identifier. -/
def mostComponents : Nat := 8

/-- Traits that every identifier has. -/
def generatedTraits : List String :=
  ["Clone", "PartialEq", "Eq", "PartialOrd", "Ord", "Hash", "Debug", "Default"]

/-- The struct is plain: no generics, no fields. -/
def checkShape (kind : MarkerKind) (s : Struct) : Except Diagnostic Unit := do
  if !s.generics.isEmpty || s.predicates.isSome then
    throw ⟨.genericStruct kind, s.generics.span⟩
  if !s.fields.isEmpty then throw ⟨.structFields kind s.name, s.fields.span⟩

/-- A path and its span. -/
def spannedPath : Reader (Path × Span) := do
  let (p, taken) ← Reader.taking Grammar.path
  return (p, Tree.spanAll taken)

/-- The paths in the list of an attribute. -/
def listedPaths (a : Attribute) : Except Diagnostic (List (Path × Span)) :=
  match a.form with
  | .bare => .error ⟨.listMissing a.path.last.name, a.pathSpan⟩
  | .value sign _ => .error ⟨.listInstead a.path.last.name, sign⟩
  | .list _ trees span => do
    return (← (Reader.commaList spannedPath).run span.lastChar trees).1

/-- No trait in a list is one that is generated. -/
def checkListed (kind : MarkerKind) (type : String) : List (Path × Span) → Except Diagnostic Unit
  | [] => .ok ()
  | (p, span) :: ps =>
    if generatedTraits.contains p.last.name then
      .error ⟨.derivedTrait kind p.last.name type, span⟩
    else checkListed kind type ps

/-- No derived trait is one that is generated. -/
def checkDerives (kind : MarkerKind) (type : String) : List Attribute → Except Diagnostic Unit
  | [] => .ok ()
  | a :: as => do
    if a.path.isName "derive" then checkListed kind type (← listedPaths a)
    checkDerives kind type as

/-- A combined identifier has as many components as it may have. -/
def checkCount (kind : MarkerKind) (m : MarkerArgs) : Except Diagnostic Unit :=
  let found := m.components.length
  if kind = .combined && !(leastComponents ≤ found && found ≤ mostComponents) then
    .error ⟨.componentCount leastComponents mostComponents found, m.span⟩
  else .ok ()

/-- What is wrong with the name of a component, given the names before it, whether it is the only
one, and the accessor of the value. -/
def nameProblem? (seen : List String) (alone : Bool) (property name : String) : Option Problem :=
  if seen.contains name then some (.duplicateComponent name name)
  else if !alone && name == property then some (.accessorClash name)
  else if isReserved name then some (.reservedComponent name)
  else none

/-- Components have names of their own. -/
def checkNames (alone : Bool) (property : String) :
    (seen : List String) → List Component → Except Diagnostic Unit
  | _, [] => .ok ()
  | seen, c :: cs =>
    match nameProblem? seen alone property c.name with
    | some p => .error ⟨p, c.span⟩
    | none => checkNames alone property (c.name :: seen) cs

/-- The accessor of the value has a name of its own. -/
def checkProperty (o : Options) : Except Diagnostic Unit :=
  if isReserved o.valueProperty then
    .error ⟨.reservedProperty o.valueProperty, o.propertySpan⟩
  else .ok ()

/-- The declaration of an identifier is valid. -/
def check (kind : MarkerKind) (s : Struct) (m : MarkerArgs) : Except Diagnostic Unit := do
  checkShape kind s
  checkDerives kind s.name s.attributes
  checkCount kind m
  checkNames (m.components.length ≤ 1) m.options.valueProperty [] m.components
  checkProperty m.options

end Validity

end TypedIds
