import TypedIds.Proofs.Marker.Resolution

/-!
# What is a marker, and what is left of a struct

The path of an attribute consists of plain names.  It names a marker in five spellings: the name of
the kind alone, or after one of two libraries, and there `::` may come first.  Resolving a struct
divides its attributes by that:

* with one marker it yields the kind of the marker, and the struct without it;
* with no marker it yields nothing;
* with more it is an error, at the second one, that names the first two kinds.

`Struct.markers_eq_cons_iff` finds the first of the markers, with the attributes before it and those
after it.  **`Struct.resolve_divides_attributes`** puts all together.
-/

set_option autoImplicit false

namespace TypedIds

/-! ## Spellings -/

/-- The paths by which an attribute is a marker of a kind. -/
def MarkerKind.spellings (k : MarkerKind) : List Path :=
  let name := match k with
    | .guid => "guid_id"
    | .string => "string_id"
    | .combined => "combined_id"
  [.ofNames false [] name,
   .ofNames false ["strong_id"] name, .ofNames true ["strong_id"] name,
   .ofNames false ["strong_id_macros"] name, .ofNames true ["strong_id_macros"] name]

theorem MarkerKind.ofAttributeName?_eq_some_iff {name : String} {k : MarkerKind} :
    ofAttributeName? name = some k ↔ name = k.attributeName := by
  constructor
  · intro h
    have hname := List.find?_some h
    exact (beq_iff_eq.mp hname).symm
  · rintro rfl
    exact ofAttributeName?_attributeName k

theorem isMarkerFront_iff {rooted : Bool} {front : List String} :
    isMarkerFront rooted front = true ↔
      rooted = false ∧ front = [] ∨ front = ["strong_id"] ∨ front = ["strong_id_macros"] := by
  match front with
  | [] => simp [isMarkerFront]
  | [library] => simp [isMarkerFront, markerLibraries]
  | _ :: _ :: _ => simp [isMarkerFront]

theorem Path.ofNames_inj {rooted rooted' : Bool} {front front' : List String}
    {last last' : String} :
    ofNames rooted front last = ofNames rooted' front' last' ↔
      rooted = rooted' ∧ front = front' ∧ last = last' := by
  have hinj (n m : String) (h : Segment.mk n .none = Segment.mk m .none) : n = m := by
    cases h
    rfl
  simp [ofNames, List.map_inj_right hinj]

theorem Path.markerKind?_ofNames (rooted : Bool) (front : List String) (last : String) :
    (ofNames rooted front last).markerKind? =
      if isMarkerFront rooted front then MarkerKind.ofAttributeName? last else none := by
  have hnames : front.map (Segment.name ∘ fun n ↦ .mk n .none) = front := by
    simp [Function.comp_def, Segment.name]
  simp [markerKind?, ofNames, Segment.args, Segment.name, Args.isNone, hnames]

/-- A path of plain names is a marker in five spellings for each kind, and in no other. -/
theorem Path.markerKind?_ofNames_eq_some_iff {rooted : Bool} {front : List String} {last : String}
    {k : MarkerKind} :
    (ofNames rooted front last).markerKind? = some k ↔
      ofNames rooted front last ∈ k.spellings := by
  have hkind : (ofNames rooted front last).markerKind? = some k ↔
      isMarkerFront rooted front = true ∧ last = k.attributeName := by
    rw [markerKind?_ofNames]
    split <;> simp [MarkerKind.ofAttributeName?_eq_some_iff, *]
  have hname : MarkerKind.spellings k =
      [.ofNames false [] k.attributeName,
       .ofNames false ["strong_id"] k.attributeName, .ofNames true ["strong_id"] k.attributeName,
       .ofNames false ["strong_id_macros"] k.attributeName,
       .ofNames true ["strong_id_macros"] k.attributeName] := by
    cases k <;> rfl
  rw [hkind, hname, isMarkerFront_iff]
  simp only [List.mem_cons, List.not_mem_nil, ofNames_inj]
  cases rooted <;> simp [or_and_right]

namespace Struct

variable {s : Struct}

/-! ## The markers in order -/

theorem markers_eq_nil_iff_markerKind? :
    s.markers = [] ↔ ∀ a ∈ s.attributes, a.markerKind? = none := by
  simp [markers_eq_nil_iff, Attribute.isMarker]

/-- The first marker: there is none before it, and the others come after it. -/
theorem markers_eq_cons_iff {k : MarkerKind} {a : Attribute} {ms : List (MarkerKind × Attribute)} :
    s.markers = (k, a) :: ms ↔ ∃ front back : List Attribute, s.attributes = front ++ a :: back ∧
      (∀ b ∈ front, b.markerKind? = none) ∧ a.markerKind? = some k ∧
        { s with attributes := back }.markers = ms := by
  simp only [markers, List.filterMap_eq_cons_iff, Option.map_eq_some_iff, Option.map_eq_none_iff,
    Prod.mk.injEq]
  constructor
  · rintro ⟨front, a, back, hs, hfront, ⟨k, ha, rfl, rfl⟩, hback⟩
    exact ⟨front, back, hs, hfront, ha, hback⟩
  · rintro ⟨front, back, hs, hfront, ha, hback⟩
    exact ⟨front, a, back, hs, hfront, ⟨k, ha, rfl, rfl⟩, hback⟩

theorem length_markers : s.markers.length = s.attributes.countP (·.isMarker) := by
  rw [markers, List.length_filterMap_eq_countP]
  simp [Attribute.isMarker]

/-! ## Resolving -/

variable {path : List String}

theorem resolve_eq_none_iff :
    s.resolve path = .ok none ↔ ∀ a ∈ s.attributes, a.markerKind? = none := by
  rw [← markers_eq_nil_iff_markerKind?, resolve]
  split <;> simp [*]

/-- What resolving yields is the struct without one attribute, which is a marker, while none of
those that are left is one. -/
theorem resolve_eq_some_iff {t : Target} :
    s.resolve path = .ok (some t) ↔ ∃ front back : List Attribute,
      s = t.item.insert front t.marker back ∧ t.item.attributes = front ++ back ∧
        t.marker.markerKind? = some t.kind ∧ (∀ a ∈ front ++ back, a.markerKind? = none) ∧
          t.path = path := by
  constructor
  · intro h
    obtain ⟨hm, hitem, hpath⟩ := resolve_eq_some h
    obtain ⟨front, back, hs, hfront, hkind, hback⟩ := markers_eq_cons_iff.mp hm
    have hnone : ∀ a ∈ front ++ back, a.markerKind? = none := fun a ha ↦
      (List.mem_append.mp ha).elim (hfront a) (markers_eq_nil_iff_markerKind?.mp hback a)
    have hrest : t.item = { s with attributes := front ++ back } := by
      have hs' : s = insert { s with attributes := front ++ back } front t.marker back := by
        rw [insert, ← hs]
      rw [hitem, hs']
      exact withoutMarkers_insert (markers_eq_nil_iff_markerKind?.mpr hnone) rfl
        (Attribute.isMarker_of_markerKind? hkind)
    refine ⟨front, back, ?_, by rw [hrest], hkind, hnone, hpath⟩
    rw [hrest, insert, ← hs]
  · rintro ⟨front, back, hs, hrest, hkind, hnone, hpath⟩
    have hmarkers : t.item.markers = [] := by
      rw [markers_eq_nil_iff_markerKind?, hrest]
      exact hnone
    rw [hs, resolve_insert hmarkers hrest hkind, ← hpath]

/-- The error is about the second marker; whatever is between the two is not a marker. -/
theorem resolve_eq_error_iff {d : Diagnostic} :
    s.resolve path = .error d ↔ ∃ (front : List Attribute) (a : Attribute)
        (between : List Attribute) (b : Attribute) (back : List Attribute) (j k : MarkerKind),
      s.attributes = front ++ a :: (between ++ b :: back) ∧
        (∀ c ∈ front ++ between, c.markerKind? = none) ∧ a.markerKind? = some j ∧
          b.markerKind? = some k ∧ d = ⟨.twoMarkers j k, b.span⟩ := by
  have hmarkers : s.resolve path = .error d ↔ ∃ j a k b ms,
      s.markers = (j, a) :: (k, b) :: ms ∧ d = ⟨.twoMarkers j k, b.span⟩ := by
    rw [resolve]
    split
    · simp [*]
    · simp [*]
    next first a second b ms hm =>
      simp only [hm, Except.error.injEq, List.cons.injEq, Prod.mk.injEq]
      constructor
      · rintro rfl
        exact ⟨first, a, second, b, ms, ⟨⟨rfl, rfl⟩, ⟨rfl, rfl⟩, rfl⟩, rfl⟩
      · rintro ⟨_, _, _, _, _, ⟨⟨rfl, rfl⟩, ⟨rfl, rfl⟩, rfl⟩, rfl⟩
        rfl
  rw [hmarkers]
  constructor
  · rintro ⟨j, a, k, b, ms, hm, hd⟩
    obtain ⟨front, rest, hs, hfront, ha, hrest⟩ := markers_eq_cons_iff.mp hm
    obtain ⟨between, back, rfl, hbetween, hb, -⟩ := markers_eq_cons_iff.mp hrest
    refine ⟨front, a, between, b, back, j, k, hs, fun c hc ↦ ?_, ha, hb, hd⟩
    exact (List.mem_append.mp hc).elim (hfront c) (hbetween c)
  · rintro ⟨front, a, between, b, back, j, k, hs, hnone, ha, hb, hd⟩
    have hfront : ∀ c ∈ front, c.markerKind? = none := fun c hc ↦
      hnone c (List.mem_append_left _ hc)
    have hbetween : ∀ c ∈ between, c.markerKind? = none := fun c hc ↦
      hnone c (List.mem_append_right _ hc)
    exact ⟨j, a, k, b, _, markers_eq_cons_iff.mpr ⟨front, _, hs, hfront, ha,
      markers_eq_cons_iff.mpr ⟨between, back, rfl, hbetween, hb, rfl⟩⟩, hd⟩

/-- A struct resolves to something exactly if one of its attributes is a marker. -/
theorem exists_resolve_eq_some_iff :
    (∃ t, s.resolve path = .ok (some t)) ↔ s.attributes.countP (·.isMarker) = 1 := by
  rw [← length_markers, List.length_eq_one_iff, resolve]
  split <;> simp [*]

/-- Resolving fails exactly if two of the attributes are markers, or more. -/
theorem exists_resolve_eq_error_iff :
    (∃ d, s.resolve path = .error d) ↔ 2 ≤ s.attributes.countP (·.isMarker) := by
  rw [← length_markers, resolve]
  split <;> simp [*]

/-- Resolving divides the attributes of a struct into markers and others.  An attribute is a marker
if its path is spelled as one, whatever follows the path.  With one marker, resolving tells its kind
and takes it away; the other attributes keep their order, and the rest of the struct is as it was.
Without markers nothing is resolved.  With more it is an error, which names the kinds of the first
two and has the span of the second. -/
theorem resolve_divides_attributes :
    (∀ (a : Attribute) (rooted : Bool) (front : List String) (last : String) (k : MarkerKind),
      { a with path := .ofNames rooted front last }.markerKind? = some k ↔
        Path.ofNames rooted front last ∈ k.spellings) ∧
    ∀ (s : Struct) (path : List String),
      ((∃ t, s.resolve path = .ok (some t)) ↔ s.attributes.countP (·.isMarker) = 1) ∧
      (∀ t, s.resolve path = .ok (some t) ↔ ∃ front back : List Attribute,
        s = t.item.insert front t.marker back ∧ t.item.attributes = front ++ back ∧
          t.marker.markerKind? = some t.kind ∧ (∀ a ∈ front ++ back, a.markerKind? = none) ∧
            t.path = path) ∧
      (s.resolve path = .ok none ↔ ∀ a ∈ s.attributes, a.markerKind? = none) ∧
      ((∃ d, s.resolve path = .error d) ↔ 2 ≤ s.attributes.countP (·.isMarker)) ∧
      ∀ d, s.resolve path = .error d ↔ ∃ (front : List Attribute) (a : Attribute)
          (between : List Attribute) (b : Attribute) (back : List Attribute) (j k : MarkerKind),
        s.attributes = front ++ a :: (between ++ b :: back) ∧
          (∀ c ∈ front ++ between, c.markerKind? = none) ∧ a.markerKind? = some j ∧
            b.markerKind? = some k ∧ d = ⟨.twoMarkers j k, b.span⟩ :=
  ⟨fun _ _ _ _ _ ↦ Path.markerKind?_ofNames_eq_some_iff, fun _ _ ↦
    ⟨exists_resolve_eq_some_iff, fun _ ↦ resolve_eq_some_iff, resolve_eq_none_iff,
      exists_resolve_eq_error_iff, fun _ ↦ resolve_eq_error_iff⟩⟩

end Struct

end TypedIds
