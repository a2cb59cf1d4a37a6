import TypedIds.Proofs.Declaration.Accepted
import TypedIds.Proofs.Expansion.Outcome
import TypedIds.Proofs.Marker.Args
import TypedIds.Proofs.Marker.Typed

/-!
# What stops the expansion of a marker

Whatever is wrong with the arguments of a marker or with the item it stands on is a diagnostic, with
two exceptions.  The type of a UUID is read from the path of the library, and a path may hold the
word `try`, with which no type begins: then the expansion stops where the arguments are read
(`StopsAtType`).  The converter of a scalar identifier is named after the struct, and no name can be
made from a raw one: if nothing else is wrong, the expansion stops there (`StopsAtName`).  For a
path of usual names the second is the only one.

Other steps could stop it too, for nothing looks whether they can be made.  They can because of what
has been read and checked before them:

* `MarkerArgs.Prepared` — a scalar identifier has a first component; the path of the library and the
  name of the type of UUIDs in it can be read again, as a type.
* `Declaration.Prepared` — there is a default for every component.
* `IsPlainName` — a name that has been made for an accessor is read as itself, and is not raw.
-/

set_option autoImplicit false

namespace TypedIds

/-! ## Steps that nothing guards -/

/-- What the steps rely on that are made with the arguments of a marker. -/
structure MarkerArgs.Prepared (kind : MarkerKind) (m : MarkerArgs) : Prop where
  /-- A scalar identifier has one component. -/
  scalar : kind.isScalar = true → m.components = [scalarComponent kind m.options]
  /-- The path of the library can be read. -/
  path : ∃ scope ts, Grammar.path.run scope ts = .ok m.options.crate
  /-- Whatever trees the path is read from, they are the type of UUIDs with its name after them. -/
  type : m.options.crate.beginsType = true → ∀ scope ts place,
    Grammar.path.run scope ts = .ok m.options.crate →
      (Grammar.nested.typeOf true).run scope (ts ++ childTrees "Uuid" place) =
        .ok (scalarComponent .guid m.options).ty
  /-- What is written for that type is read as the type. -/
  code : (∀ a ∈ m.options.crate.segments, a.IsPlain) → ∀ scope ts,
    Tree.codeAll ts = (scalarComponent .guid m.options).ty.code →
      Grammar.type.run scope ts = .ok (scalarComponent .guid m.options).ty

/-- What the steps rely on that are made with a declaration. -/
structure Declaration.Prepared (d : Declaration) : Prop where
  /-- A scalar identifier has one component. -/
  scalar : d.kind.isScalar = true → d.components = [d.scalar]
  /-- A combined identifier has a default for every component. -/
  defaults : d.kind = .combined → d.defaults.length = d.components.length

theorem SpelledAll.exists_spelled {es : List MarkerEntry} {ts : List Tree} (h : SpelledAll es ts)
    {x : MarkerEntry} (hx : x ∈ es) : ∃ trees, x.Spelled trees := by
  induction h with
  | nil => cases hx
  | last hlast => exact ⟨_, List.mem_singleton.mp hx ▸ hlast⟩
  | cons _ _ hfirst _ ih =>
    rcases List.mem_cons.mp hx with rfl | hx
    · exact ⟨_, hfirst⟩
    · exact ih hx

theorem MarkerEntry.Spelled.exists_path_run {p : Path} {trees : List Tree}
    (h : (MarkerEntry.crate p).Spelled trees) :
    ∃ scope ts, Grammar.path.run scope ts = .ok p := by
  cases h with
  | @crate s sign place joined text l _ htext hpath =>
    rw [Grammar.readText] at hpath
    split at hpath
    · cases hpath
    next ts _ =>
      obtain ⟨p', hrun, hpath⟩ := exists_of_bind_eq_ok hpath
      split at hpath
      · cases hpath
        exact ⟨place, Tree.respanAll place ts, hrun⟩
      · cases hpath

/-- The path of the library is the one that is given, or the default; both can be read. -/
theorem Entries.exists_path_run {args : List Tree} {e : Entries}
    (h : Grammar.entries.run .nowhere args = .ok e) :
    ∃ scope ts, Grammar.path.run scope ts = .ok e.options.crate := by
  obtain ⟨es, hes, -, rfl⟩ := Grammar.entries_run_eq_ok_iff.mp h
  cases hcrate : es.findSome? MarkerEntry.crate? with
  | none =>
    have hdefault : (Entries.ofList es).options.crate = Options.default.crate := by
      simp [Entries.options, Entries.ofList, hcrate]
    rw [hdefault]
    refine ⟨.nowhere, childTrees "strong_id" .nowhere, Grammar.path_run_code ?_ rfl⟩
    decide
  | some p =>
    have hgiven : (Entries.ofList es).options.crate = p := by
      simp [Entries.options, Entries.ofList, hcrate]
    rw [hgiven]
    obtain ⟨x, hx, hp⟩ := List.exists_of_findSome?_eq_some hcrate
    obtain ⟨trees, hspelled⟩ := hes.exists_spelled hx
    cases x <;> cases hp
    exact hspelled.exists_path_run

theorem MarkerArgs.prepared_of_read {kind : MarkerKind} {args : List Tree} {span : Span}
    {m : MarkerArgs} (h : MarkerArgs.read kind args span = .ok m) : m.Prepared kind := by
  obtain ⟨e, he, hoptions, hcomponents⟩ := MarkerArgs.read_ok h
  constructor
  case scalar =>
    intro hk
    rw [hcomponents, if_pos hk, hoptions]
  case path =>
    rw [hoptions]
    exact Entries.exists_path_run he
  case type =>
    intro hbegins scope ts place hts
    exact Grammar.Nested.typeOf_childTrees hts hbegins (by decide) true place
  case code =>
    intro hplain scope ts hts
    have hchild : ∀ a ∈ (m.options.crate.child "Uuid").segments, a.IsPlain :=
      Path.forall_segments_child hplain (by decide)
    exact Grammar.type_run_code hchild hts

theorem Declaration.Accepted.prepared {x : Index} {s : Struct} {d : Declaration}
    (h : Accepted x s d) : d.Prepared := by
  constructor
  case scalar =>
    intro hk
    rw [Declaration.scalar, h.components_eq hk]
    rfl
  case defaults =>
    intro hk
    exact (h.forall₂_infer hk).length_eq.symm

/-! ## What stops -/

/-- The item is a struct without a marker, and the arguments of the marker can be read, but it is
to be a UUID and the path of the library begins no type. -/
def StopsAtType (kind : MarkerKind) (args item : List Tree) : Prop :=
  ∃ s m, Grammar.item.run .nowhere item = .ok (.struct s) ∧ s.markers = [] ∧
    MarkerArgs.read kind args .nowhere = .ok m ∧ ¬m.IsTyped kind

/-- The item is a struct with a raw name and without a marker, and all is right with it and with the
arguments of a marker for a scalar identifier. -/
def StopsAtName (kind : MarkerKind) (args item : List Tree) : Prop :=
  kind.isScalar = true ∧ ∃ s m, Grammar.item.run .nowhere item = .ok (.struct s) ∧
    isRaw s.name = true ∧ s.markers = [] ∧ MarkerArgs.parse kind args .nowhere = .ok (.ok m) ∧
    Validity.check kind s m = .ok ()

/-- A path of usual names is no reason to stop. -/
theorem not_stopsAtType {kind : MarkerKind} {args : List Tree}
    (h : ∀ m, MarkerArgs.read kind args .nowhere = .ok m → m.options.crate.IsUsual)
    (item : List Tree) : ¬StopsAtType kind args item := by
  rintro ⟨_, m, -, -, hm, htyped⟩
  exact htyped ((h m hm).serves kind)

theorem exists_markedDeclaration_eq_error_iff {kind : MarkerKind} {args item : List Tree} :
    (∃ n, markedDeclaration kind args item = .error n) ↔ StopsAtType kind args item := by
  simp only [markedDeclaration_eq_error_iff, markedItem_eq_error_iff, MarkerArgs.parse_eq_error_iff,
    StopsAtType]
  constructor
  · rintro ⟨n, s, hitem, _, hs, hmarkers, m, hm, htyped, -⟩
    cases hs
    exact ⟨s, m, hitem, hmarkers, hm, htyped⟩
  · rintro ⟨s, m, hitem, hmarkers, hm, htyped⟩
    exact ⟨_, s, hitem, s, rfl, hmarkers, m, hm, htyped, rfl⟩

/-- What is declared without a name for its converter is a scalar identifier with a raw name. -/
theorem exists_unit_eq_error_iff {kind : MarkerKind} {args item : List Tree} :
    (∃ d, markedDeclaration kind args item = .ok (.ok d) ∧ ∃ n, d.unit [] = .error n) ↔
      StopsAtName kind args item := by
  constructor
  · rintro ⟨d, hd, hn⟩
    obtain ⟨s, hitem, hd⟩ := markedDeclaration_eq_ok_iff.mp hd
    obtain ⟨_, m, hs, hmarkers, hm, hd⟩ := markedItem_eq_ok_iff.mp hd
    cases hs
    obtain ⟨hscalar, hraw⟩ := Declaration.unit_eq_error_iff.mp hn
    obtain ⟨hkind, hstruct, hcheck⟩ := Declaration.kind_item_of_ofMarked hd
    rw [hkind] at hscalar
    rw [Declaration.name, hstruct] at hraw
    exact ⟨hscalar, s, m, hitem, hraw, hmarkers, MarkerArgs.parse_eq_ok_iff.mpr hm, hcheck⟩
  · rintro ⟨hscalar, s, m, hitem, hraw, hmarkers, hm, hcheck⟩
    have hd := Declaration.ofMarked_of_isScalar hscalar s m .empty []
    rw [hcheck] at hd
    have hmarked : markedItem kind args (.struct s) (Tree.spanAll item) = .ok (.ok _) :=
      markedItem_eq_ok_iff.mpr ⟨s, m, rfl, hmarkers, MarkerArgs.parse_eq_ok_iff.mp hm, hd⟩
    exact ⟨_, markedDeclaration_eq_ok_iff.mpr ⟨s, hitem, hmarked⟩,
      Declaration.unit_eq_error_iff.mpr ⟨hscalar, hraw⟩⟩

theorem expandMarker_eq_error_iff (kind : MarkerKind) (args item : List Tree) (us : Units) :
    (∃ n, expandMarker kind args item us = .error n) ↔
      StopsAtType kind args item ∨ StopsAtName kind args item := by
  rw [← exists_markedDeclaration_eq_error_iff, ← exists_unit_eq_error_iff, expandMarker_eq]
  rcases markedDeclaration kind args item with n | e | d
  · simp
  · simp
  · cases hd : d.unit [] with
    | error n => simp [hd]
    | ok u => cases ho : us.obstacle? u <;> simp [hd, ho]

/-- **A marker is not expanded for two reasons only.**  It is that of a UUID, and the path of the
library begins no type; or it is that of a scalar identifier, and the struct has a raw name but is
right in all other ways, as the arguments are.  If the path of the library has usual names, the
second is the only one.  Whatever else is given, there is code or a diagnostic.  No other step that
nothing guards can be the reason: what the arguments and the declaration have to be for these steps,
they are. -/
theorem expandMarker_stops_iff (kind : MarkerKind) (args item : List Tree) (us : Units) :
    ((∃ n, expandMarker kind args item us = .error n) ↔
        StopsAtType kind args item ∨ StopsAtName kind args item) ∧
    ((∀ m, MarkerArgs.read kind args .nowhere = .ok m → m.options.crate.IsUsual) →
      ((∃ n, expandMarker kind args item us = .error n) ↔ StopsAtName kind args item)) ∧
    (¬StopsAtType kind args item → ¬StopsAtName kind args item →
      ∃ us', (∃ code, expandMarker kind args item us = .ok (.ok code, us')) ∨
        ∃ d, expandMarker kind args item us = .ok (.error d, us')) ∧
    (∀ m, MarkerArgs.read kind args .nowhere = .ok m → m.Prepared kind) ∧
    (∀ i d, Grammar.item.run .nowhere item = .ok i →
      markedItem kind args i (Tree.spanAll item) = .ok (.ok d) → d.Prepared) ∧
    ∀ property name, propertyName property = .ok name → IsPlainName name := by
  have hiff := expandMarker_eq_error_iff kind args item us
  refine ⟨hiff, fun husual ↦ ?_, fun htype hname ↦ ?_, fun m hm ↦ MarkerArgs.prepared_of_read hm,
    fun i d hitem hd ↦ ?_, fun property name h ↦ isPlainName_of_propertyName h⟩
  · rw [hiff, or_iff_right (not_stopsAtType husual item)]
  · rcases hresult : expandMarker kind args item us with n | ⟨d | code, us'⟩
    · exact absurd (hiff.mp ⟨n, hresult⟩) (not_or.mpr ⟨htype, hname⟩)
    · exact ⟨us', .inr ⟨d, rfl⟩⟩
    · exact ⟨us', .inl ⟨code, rfl⟩⟩
  · obtain ⟨s, m, rfl, -⟩ := markedItem_eq_ok_iff.mp hd
    exact (Declaration.Accepted.marker hitem hd).prepared

/-- The expansion stops at a struct called `r#type`, whose library is at `shop::ids`.  The type of
UUIDs there can be read. -/
theorem expandMarker_stops_at_raw_type :
    ∃ args item m, Tree.read "crate = \"shop::ids\"" = .ok args ∧
      Tree.read "struct r#type;" = .ok item ∧
      MarkerArgs.read .guid args .nowhere = .ok m ∧ m.options.crate.IsUsual ∧
      StopsAtName .guid args item ∧ (∃ n, expandMarker .guid args item .ignored = .error n) ∧
      ∀ ts, Tree.codeAll ts = (scalarComponent .guid m.options).ty.code →
        Grammar.type.run .nowhere ts = .ok (scalarComponent .guid m.options).ty := by
  have h : ((Tree.read "crate = \"shop::ids\"").toOption.any fun args ↦
      (Tree.read "struct r#type;").toOption.any fun item ↦
      (MarkerArgs.read .guid args .nowhere).toOption.any fun m ↦
      decide (∀ a ∈ m.options.crate.segments, a.IsPlain) &&
      (expandMarker .guid args item .ignored).toOption.isNone) = true := by
    decide +kernel
  obtain ⟨args, hargs, h⟩ := exists_of_any_toOption h
  obtain ⟨item, hitem, h⟩ := exists_of_any_toOption h
  obtain ⟨m, hm, h⟩ := exists_of_any_toOption h
  obtain ⟨hplain, hnone⟩ := Bool.and_eq_true_iff.mp h
  have hplain : ∀ a ∈ m.options.crate.segments, a.IsPlain := of_decide_eq_true hplain
  have husual : m.options.crate.IsUsual := fun a ha ↦ (hplain a ha).1
  have hstops : ∃ n, expandMarker .guid args item .ignored = .error n := by
    cases hresult : expandMarker .guid args item .ignored with
    | error n => exact ⟨n, rfl⟩
    | ok r =>
      rw [hresult] at hnone
      cases hnone
  obtain ⟨-, hiff, -, hprepared, -⟩ := expandMarker_stops_iff .guid args item .ignored
  have hread : ∀ m', MarkerArgs.read .guid args .nowhere = .ok m' → m'.options.crate.IsUsual := by
    intro m' hm'
    rw [hm] at hm'
    exact Except.ok.inj hm' ▸ husual
  exact ⟨args, item, m, hargs, hitem, hm, husual, (hiff hread).mp hstops, hstops,
    (hprepared m hm).code hplain .nowhere⟩

end TypedIds
