import TypedIds.Grammar.Item
import TypedIds.Marker.Recognition

/-!
# Finding marked structs

The candidates of a module tree are its structs that have an attribute, in source order, modules
inside of modules included, each with the names of the modules around it.  Resolving a struct tells
whether exactly one of its attributes is a marker, and takes that attribute away.  Two markers on
one struct are an error.
-/

set_option autoImplicit false

namespace TypedIds

/-- A struct that may be marked, and the names of the modules around it. -/
structure Candidate where
  item : Struct
  path : List String
  deriving Inhabited

mutual

/-- The candidates of an item that lies in the module at `path`. -/
def Item.candidates (path : List String) : Item → List Candidate
  | .struct s => if s.attributes.isEmpty then [] else [⟨s, path⟩]
  | .module head items => Item.candidatesAll (path ++ [head.name]) items
  | .members _ => []
  | .other _ => []

/-- The candidates of some items that lie in the module at `path`. -/
def Item.candidatesAll (path : List String) : List Item → List Candidate
  | [] => []
  | i :: is => i.candidates path ++ Item.candidatesAll path is

end

/-- A struct with its one marker. -/
structure Target where
  kind : MarkerKind
  marker : Attribute
  /-- The struct without the marker. -/
  item : Struct
  path : List String
  deriving Inhabited

namespace Struct

/-- The markers of a struct with their kinds. -/
def markers (s : Struct) : List (MarkerKind × Attribute) :=
  s.attributes.filterMap fun a ↦ a.markerKind?.map (·, a)

/-- A struct without its markers. -/
def withoutMarkers (s : Struct) : Struct :=
  { s with attributes := s.attributes.filter (!·.isMarker) }

/-- The marker of a struct in the module at `path`, if it has one. -/
def resolve (s : Struct) (path : List String) : Except Diagnostic (Option Target) :=
  match s.markers with
  | [] => .ok none
  | [(kind, marker)] => .ok (some ⟨kind, marker, s.withoutMarkers, path⟩)
  | (first, _) :: (second, a) :: _ => .error ⟨.twoMarkers first second, a.span⟩

end Struct

end TypedIds
