import TypedIds.Proofs.Declaration.Accepted
import TypedIds.Proofs.Validity.Members

/-!
# Derived traits and generated traits

No list of derived traits may name a trait that the identifier has anyway.  What is checked is a
list of traits that is kept by hand (`Validity.generatedTraits`); what the identifier has are the
traits that the items of its code derive or implement for it (`Generated.traitsOf`).  The two are
not the same: there are traits that every identifier has, and others that only some kinds have,
which are not in the list (`Declaration.uncheckedTraits`).

**`Declaration.Accepted.repeats_iff`** says exactly which derived traits are generated too.
-/

set_option autoImplicit false

namespace TypedIds

/-! ## The traits of an identifier -/

namespace Generated

/-- The names of the traits that an item derives or implements for the type of this name. -/
def Item.traitsOf (type : String) : Item → List String
  | .definition d => if d.name = type then d.derives.map Trait.name else []
  | .implementation i => if i.target = word type then (i.trait.map Trait.name).toList else []
  | .assertions _ => []

/-- The names of the traits that items derive or implement for the type of this name. -/
def traitsOf (type : String) (is : List Item) : List String := is.flatMap (Item.traitsOf type)

@[simp] theorem traitsOf_nil (type : String) : traitsOf type [] = [] := rfl

theorem traitsOf_append (type : String) (is js : List Item) :
    traitsOf type (is ++ js) = traitsOf type is ++ traitsOf type js := List.flatMap_append

theorem traitsOf_cons (type : String) (i : Item) (is : List Item) :
    traitsOf type (i :: is) = i.traitsOf type ++ traitsOf type is := List.flatMap_cons

/-- An implementation for another type gives nothing to the type. -/
theorem Item.traitsOf_other {i : Implementation} {type : String} (h : i.target ≠ word type) :
    Item.traitsOf type (.implementation i) = [] := if_neg h

variable {d : Declaration}

@[simp] theorem traitsOf_definition :
    Item.traitsOf d.name (.definition (definition d)) = derivedTraits.map Trait.name := if_pos rfl

/-- Own members are those of no trait. -/
@[simp] theorem traitsOf_own (members : List Member) :
    Item.traitsOf d.name
      (.implementation { trait := none, target := typeName d, members := members }) = [] :=
  if_pos rfl

@[simp] theorem traitsOf_formatting (trait : String) (stmts : List Stmt) (result : Expr) :
    Item.traitsOf d.name (.implementation (formatting d trait stmts result)) = [trait] := if_pos rfl

@[simp] theorem traitsOf_coreTraits :
    traitsOf d.name (coreTraits d) = ["Default", "TypedIdentifier"] := by
  have hdefault : Item.traitsOf d.name (.implementation (defaultTrait d)) = ["Default"] :=
    if_pos rfl
  have hidentifier : Item.traitsOf d.name (.implementation (identifierTrait d)) =
      ["TypedIdentifier"] := if_pos rfl
  simp [coreTraits, traitsOf, hdefault, hidentifier]

variable (d) in
/-- The trait of conversions from a value, which may fail if the constructor may. -/
def conversionTrait : String := if d.isFallible then "TryFrom" else "From"

theorem Scalar.traitsOf_conversions (hvalue : d.valueType ≠ word d.name) :
    traitsOf d.name ((conversions d).map .implementation) =
      [conversionTrait d] ++ (if d.kind = .string then [conversionTrait d] else []) ++ ["AsRef"] ++
        (if d.kind = .string then ["AsRef"] else []) := by
  have hfrom : Item.traitsOf d.name (.implementation (fromValue d)) = [conversionTrait d] := by
    rw [fromValue, conversionTrait]
    cases d.isFallible <;> exact if_pos rfl
  have htext : Item.traitsOf d.name (.implementation (fromText d)) = [conversionTrait d] := by
    rw [fromText, conversionTrait]
    cases d.isFallible <;> exact if_pos rfl
  have hto : Item.traitsOf d.name (.implementation (toValue d)) = [] := Item.traitsOf_other hvalue
  have hview (type : Code) : Item.traitsOf d.name (.implementation (asRef d type)) = ["AsRef"] :=
    if_pos rfl
  rw [conversions]
  split <;> simp [traitsOf, hfrom, htext, hto, hview]

theorem Scalar.traitsOf_formats (d : Declaration) :
    traitsOf d.name ((formats d).map .implementation) =
      ["Display", "Debug"] ++ if d.kind = .guid then ["LowerHex", "UpperHex"] else [] := by
  rw [formats]
  split <;> simp [traitsOf, formatAs, debugFormat]

/-- The traits of a scalar identifier. -/
theorem Scalar.traitsOf_items {converter : String} (hconverter : converter ≠ d.name) :
    traitsOf d.name (items d converter) =
      derivedTraits.map Trait.name ++
        (traitsOf d.name ((conversions d).map .implementation) ++
          traitsOf d.name ((formats d).map .implementation)) ++
        ["Default", "TypedIdentifier"] ++ ["ScalarIdentifier", "FromStr"] := by
  have hscalar : Item.traitsOf d.name (.implementation (scalarTrait d converter)) =
      ["ScalarIdentifier"] := if_pos rfl
  have hread : Item.traitsOf d.name (.implementation (fromStr d converter)) = ["FromStr"] :=
    if_pos rfl
  have hdefinition : Item.traitsOf d.name (.definition (converterDefinition d converter)) = [] :=
    if_neg hconverter
  have hmembers : Item.traitsOf d.name (.implementation (converterMembers d converter)) = [] :=
    Item.traitsOf_other (by simpa [converterMembers, word] using hconverter)
  simp [items, traitsOf_append, traitsOf_cons, hscalar, hread, hdefinition, hmembers]

/-- The traits of a combined identifier. -/
theorem Combined.traitsOf_items (hvalue : d.valueType ≠ word d.name) :
    traitsOf d.name (items d) =
      derivedTraits.map Trait.name ++ ["Display", "Debug"] ++ ["Default", "TypedIdentifier"] := by
  have hto : Item.traitsOf d.name (.implementation (toValue d)) = [] := Item.traitsOf_other hvalue
  have hdemands : Item.traitsOf d.name (demands d.components) = [] := rfl
  simp [items, traitsOf_cons, displayFormat, debugFormat, hto, hdemands]

end Generated

variable {x : Index} {s : Struct} {d : Declaration} {is : List Generated.Item}

namespace Declaration

/-- The traits of an identifier that are not in the list which is checked. -/
def uncheckedTraits (d : Declaration) : List String :=
  ["Display", "TypedIdentifier"] ++
    if d.kind.isScalar then
      [Generated.conversionTrait d, "AsRef", "FromStr", "ScalarIdentifier"] ++
        if d.kind = .guid then ["LowerHex", "UpperHex"] else []
    else []

/-- The wrapped value is not of the type itself. -/
theorem Accepted.valueType_ne (h : Accepted x s d) (name : String) :
    d.valueType ≠ Generated.word name := by
  rw [valueType]
  cases hk : d.kind with
  | combined => exact fun heq ↦ by cases heq
  | guid =>
    rw [if_pos (by decide), scalar, h.components_eq (by rw [hk]; rfl), hk]
    intro heq
    have hlength := congrArg List.length ((Path.code_child d.options.crate "Uuid").symm.trans heq)
    simp [Generated.within, Generated.absolute, Generated.word, Code.op, Code.ofMarks] at hlength
  | string =>
    rw [if_pos (by decide), scalar, h.components_eq (by rw [hk]; rfl), hk]
    exact fun heq ↦ by cases heq

theorem converterName_ne {type converter : String} (h : converterName type = .ok converter) :
    converter ≠ type := by
  rw [converterName] at h
  split at h
  · cases h
  · cases h
    intro heq
    have hlength := congrArg String.length heq
    simp at hlength

/-- An identifier has the traits that are checked and the others, and no more. -/
theorem Accepted.mem_traitsOf_iff (h : Accepted x s d) (his : d.items = .ok is) (trait : String) :
    trait ∈ Generated.traitsOf d.name is ↔
      trait ∈ Validity.generatedTraits ∨ trait ∈ d.uncheckedTraits := by
  have hvalue := h.valueType_ne d.name
  rw [items] at his
  cases hk : d.kind with
  | combined =>
    rw [hk, if_neg (by decide)] at his
    cases his
    rw [Generated.Combined.traitsOf_items hvalue, uncheckedTraits, hk]
    simp only [Validity.generatedTraits, MarkerKind.isScalar, Generated.derivedTraits,
      Generated.Trait.core, List.map_cons, List.map_nil, List.mem_append, List.mem_cons,
      List.not_mem_nil, or_false, Bool.false_eq_true, if_false]
    grind only
  | guid | string =>
    rw [hk, if_pos (by decide)] at his
    cases hc : converterName d.name with
    | error n =>
      rw [hc] at his
      cases his
    | ok converter =>
      rw [hc] at his
      cases his
      rw [Generated.Scalar.traitsOf_items (converterName_ne hc),
        Generated.Scalar.traitsOf_conversions hvalue, Generated.Scalar.traitsOf_formats,
        uncheckedTraits, hk]
      simp only [Validity.generatedTraits, MarkerKind.isScalar, Generated.derivedTraits,
        Generated.Trait.core, List.map_cons, List.map_nil, List.mem_append, List.mem_cons,
        List.not_mem_nil, or_false, if_true, reduceIte, reduceCtorEq]
      grind only

end Declaration

/-! ## The lists of derived traits -/

/-- The last names of the paths in the lists of derived traits, as they are written. -/
def Struct.derivedNames (s : Struct) : List String :=
  (s.attributes.filter (·.path.isName "derive")).flatMap fun a ↦
    match Validity.listedPaths a with
    | .ok ps => ps.map (·.1.last.name)
    | .error _ => []

/-- A list of derived traits is no marker, so it stays. -/
theorem Attribute.isMarker_of_derive {a : Attribute} (h : a.path.isName "derive" = true) :
    a.isMarker = false := by
  simp only [Path.isName, Bool.and_eq_true, beq_iff_eq] at h
  have hname : MarkerKind.ofAttributeName? "derive" = none := by decide
  simp [isMarker, markerKind?, Path.markerKind?, h.2, hname]

namespace Declaration

/-- What is known of a list of derived traits that is accepted. -/
theorem Accepted.exists_listedPaths (h : Accepted x s d) {a : Attribute} (ha : a ∈ s.attributes)
    (hderive : a.path.isName "derive" = true) :
    ∃ ps, Validity.listedPaths a = .ok ps ∧
      ∀ p ∈ ps, p.1.last.name ∉ Validity.generatedTraits := by
  obtain ⟨span, hcheck⟩ := h.exists_check
  obtain ⟨-, hderives, -⟩ := Validity.check_eq_ok_iff.mp hcheck
  have hkept : a ∈ d.item.attributes := by
    rw [h.item_eq, Struct.withoutMarkers]
    exact List.mem_filter.mpr ⟨ha, by simp [Attribute.isMarker_of_derive hderive]⟩
  exact Validity.checkDerives_eq_ok_iff.mp hderives a hkept hderive

/-- No list of derived traits that is accepted names a trait that is checked. -/
theorem Accepted.not_mem_generatedTraits (h : Accepted x s d) {n : String}
    (hn : n ∈ s.derivedNames) : n ∉ Validity.generatedTraits := by
  obtain ⟨a, ha, hn⟩ := List.mem_flatMap.mp hn
  obtain ⟨ha, hderive⟩ := List.mem_filter.mp ha
  obtain ⟨ps, hps, hfree⟩ := h.exists_listedPaths ha hderive
  rw [hps] at hn
  obtain ⟨p, hp, rfl⟩ := List.mem_map.mp hn
  exact hfree p hp

/-- **Which derived traits are generated too.**  An identifier has the traits that are checked and a
few more.  All lists of derived traits of an accepted declaration have been read, and of what the
identifier has they may name those few, or one that is checked by its raw name, but nothing else. -/
theorem Accepted.repeats_iff (h : Accepted x s d) (his : d.items = .ok is) :
    (∀ trait, trait ∈ Generated.traitsOf d.name is ↔
        trait ∈ Validity.generatedTraits ∨ trait ∈ d.uncheckedTraits) ∧
      (∀ a ∈ s.attributes, a.path.isName "derive" = true →
        ∃ ps, Validity.listedPaths a = .ok ps) ∧
      ∀ n ∈ s.derivedNames,
        (unraw n ∈ Generated.traitsOf d.name is ↔
          unraw n ∈ d.uncheckedTraits ∨ isRaw n = true ∧ unraw n ∈ Validity.generatedTraits) := by
  refine ⟨h.mem_traitsOf_iff his, fun a ha hderive ↦ ?_, fun n hn ↦ ?_⟩
  · obtain ⟨ps, hps, -⟩ := h.exists_listedPaths ha hderive
    exact ⟨ps, hps⟩
  · rw [h.mem_traitsOf_iff his]
    cases hraw : isRaw n with
    | true => simp [or_comm]
    | false =>
      rw [unraw_of_not_raw hraw]
      simp [h.not_mem_generatedTraits hn]

end Declaration

/-- A module with an identifier that derives a trait which no identifier has. -/
def copyModule : String := "mod m \x7b #[derive(Copy)] #[guid_id] struct Key; \x7d"

theorem Declaration.repeats_iff_copyModule :
    ∃ item head items c d is,
      Tree.read copyModule = .ok item ∧ moduleToExpand [] item = .ok (head, items) ∧
        c ∈ Item.candidatesAll [] items ∧ c.declaration? (.ofItems items) = .ok (.ok (some d)) ∧
          d.items = .ok is ∧ c.item.derivedNames = ["Copy"] ∧
            "Copy" ∉ Generated.traitsOf d.name is := by
  have h : declares copyModule (fun c d ↦ d.items.toOption.any fun _ ↦
      c.item.derivedNames == ["Copy"] && d.kind == .guid) = true := by
    decide +kernel
  obtain ⟨item, head, items, c, d, hitem, hmodule, hc, hd, h⟩ := exists_of_declares h
  obtain ⟨is, his, h⟩ := exists_of_any_toOption h
  obtain ⟨hnames, hkind⟩ := Bool.and_eq_true_iff.mp h
  have haccepted : Accepted (.ofItems items) c.item d := .candidate hmodule hc hd
  have hunchecked : "Copy" ∉ d.uncheckedTraits := by
    rw [uncheckedTraits, eq_of_beq hkind, Generated.conversionTrait]
    cases d.isFallible <;> decide
  refine ⟨item, head, items, c, d, is, hitem, hmodule, hc, hd, his, eq_of_beq hnames,
    fun hmem ↦ ?_⟩
  have hchecked := ((haccepted.repeats_iff his).1 "Copy").mp hmem
  exact hchecked.elim (by decide) hunchecked

/-- Two declarations that are accepted, though the trait that they derive is generated too: one that
is not checked, and one that is checked but has a raw name here. -/
theorem Declaration.repeats_display_and_raw_clone :
    ["#[derive(Display)] struct A;", "#[derive(r#Clone)] struct A;"].map (fun text ↦
      (Tree.read text).toOption.bind fun trees ↦
        (Grammar.item.run .nowhere trees).toOption.bind fun item ↦
          (markedItem .guid [] item (Tree.spanAll trees)).toOption.bind fun r ↦
            r.toOption.bind fun d ↦ d.items.toOption.map fun is ↦
              d.item.derivedNames.filter (unraw · ∈ Generated.traitsOf d.name is)) =
      [some ["Display"], some ["r#Clone"]] := by
  decide +kernel

end TypedIds
