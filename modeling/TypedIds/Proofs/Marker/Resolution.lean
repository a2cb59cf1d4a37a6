import TypedIds.Marker.Resolution

/-!
# Markers among the attributes of a struct

`Attribute.marking` is the attribute by which a struct is marked with given arguments.  Put among
the attributes of a struct that has no marker, at any place, it is the one that is found, and what
is left when it is taken away is that struct (`Struct.resolve_insert`).
-/

set_option autoImplicit false

namespace TypedIds

/-- The attribute `#[kind(args)]`, with the spans of its path, of its list and of the whole. -/
def Attribute.marking (kind : MarkerKind) (args : List Tree) (pathSpan listSpan span : Span) :
    Attribute :=
  let path := Path.ofNames false [] kind.attributeName
  ⟨path, pathSpan, .list .parens args listSpan, span,
    .mark '#' false ::
      Code.within .brackets (path.code ++ Code.within .parens (Tree.codeAll args))⟩

section

variable (kind : MarkerKind) (args : List Tree) (pathSpan listSpan span : Span)

@[simp] theorem Attribute.markerKind?_marking :
    (marking kind args pathSpan listSpan span).markerKind? = some kind := by
  simp [marking, markerKind?, Path.markerKind?, Path.ofNames, Segment.args, Segment.name,
    Args.isNone, isMarkerFront]

@[simp] theorem Attribute.isMarker_marking :
    (marking kind args pathSpan listSpan span).isMarker = true := by
  simp [isMarker]

@[simp] theorem Attribute.markerArguments_marking :
    (marking kind args pathSpan listSpan span).markerArguments = .ok args := rfl

@[simp] theorem Attribute.span_marking :
    (marking kind args pathSpan listSpan span).span = span := rfl

end

theorem Attribute.isMarker_of_markerKind? {a : Attribute} {kind : MarkerKind}
    (h : a.markerKind? = some kind) : a.isMarker = true := by
  rw [isMarker, h]
  rfl

namespace Struct

/-- A struct that is resolved has the one marker, which is taken away. -/
theorem resolve_eq_some {s : Struct} {path : List String} {t : Target}
    (h : s.resolve path = .ok (some t)) :
    s.markers = [(t.kind, t.marker)] ∧ t.item = s.withoutMarkers ∧ t.path = path := by
  rw [resolve] at h
  split at h
  · cases h
  next kind marker hm =>
    obtain rfl := Option.some.inj (Except.ok.inj h)
    exact ⟨hm, rfl, rfl⟩
  · cases h

/-- A struct with one more attribute between those at the front and those at the back. -/
def insert (s : Struct) (front : List Attribute) (a : Attribute) (back : List Attribute) : Struct :=
  { s with attributes := front ++ a :: back }

theorem markers_eq_nil_iff {s : Struct} :
    s.markers = [] ↔ ∀ a ∈ s.attributes, a.isMarker = false := by
  simp [markers, List.filterMap_eq_nil_iff, Attribute.isMarker]

/-- Without markers there is nothing to take away. -/
theorem withoutMarkers_eq_self {s : Struct} (h : s.markers = []) : s.withoutMarkers = s := by
  have hall : s.attributes.filter (!·.isMarker) = s.attributes :=
    List.filter_eq_self.mpr fun a ha ↦ by simp [markers_eq_nil_iff.mp h a ha]
  rw [withoutMarkers, hall]

variable {s : Struct} {front back : List Attribute} {a : Attribute}

theorem withoutMarkers_insert (h : s.markers = []) (hs : s.attributes = front ++ back)
    (ha : a.isMarker = true) : (s.insert front a back).withoutMarkers = s := by
  have hfilter : (front ++ a :: back).filter (!·.isMarker) = s.attributes := by
    rw [List.filter_append, List.filter_cons_of_neg (by simp [ha]), ← List.filter_append, ← hs]
    exact List.filter_eq_self.mpr fun b hb ↦ by simp [markers_eq_nil_iff.mp h b hb]
  rw [withoutMarkers, insert, hfilter]

theorem markers_insert (h : s.markers = []) (hs : s.attributes = front ++ back)
    {kind : MarkerKind} (ha : a.markerKind? = some kind) :
    (s.insert front a back).markers = [(kind, a)] := by
  rw [markers, hs, List.filterMap_append, List.append_eq_nil_iff] at h
  rw [markers, insert, List.filterMap_append, List.filterMap_cons, h.1, h.2, ha]
  rfl

/-- A marker that is put among the attributes of a struct without markers is found there, and the
struct is what is left. -/
theorem resolve_insert (h : s.markers = []) (hs : s.attributes = front ++ back)
    {kind : MarkerKind} (ha : a.markerKind? = some kind) (path : List String) :
    (s.insert front a back).resolve path = .ok (some ⟨kind, a, s, path⟩) := by
  rw [resolve, markers_insert h hs ha]
  dsimp only
  rw [withoutMarkers_insert h hs (Attribute.isMarker_of_markerKind? ha)]

end Struct

end TypedIds
