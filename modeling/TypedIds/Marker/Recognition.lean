import TypedIds.Diagnostic
import TypedIds.Grammar.Attribute
import TypedIds.Marker.Kind

/-!
# Recognising markers

An attribute is a marker if its path is the name of a kind, alone or as a member of one of the two
libraries that define the markers.
-/

set_option autoImplicit false

namespace TypedIds

/-- The libraries that a marker may be named as a member of. -/
def markerLibraries : List String := ["strong_id", "strong_id_macros"]

/-- Whether a marker may stand after these names; `rooted` if `::` comes first. -/
def isMarkerFront (rooted : Bool) : List String → Bool
  | [] => !rooted
  | [library] => markerLibraries.contains library
  | _ => false

/-- The kind that a path names as a marker. -/
def Path.markerKind? (p : Path) : Option MarkerKind :=
  if p.last.args.isNone && isMarkerFront p.rooted (p.front.map Segment.name) then
    MarkerKind.ofAttributeName? p.last.name
  else none

namespace Attribute

/-- The kind of a marker; `none` for other attributes. -/
def markerKind? (a : Attribute) : Option MarkerKind := a.path.markerKind?

/-- Whether an attribute is a marker. -/
def isMarker (a : Attribute) : Bool := a.markerKind?.isSome

/-- The arguments of a marker. -/
def markerArguments (a : Attribute) : Except Diagnostic (List Tree) :=
  match a.form with
  | .bare => .ok []
  | .list _ trees _ => .ok trees
  | .value _ whole => .error ⟨.markerValue, whole⟩

end Attribute

end TypedIds
