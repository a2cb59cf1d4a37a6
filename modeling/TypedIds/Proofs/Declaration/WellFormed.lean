import TypedIds.Proofs.Declaration.Accepted
import TypedIds.Proofs.Default.Equality
import TypedIds.Proofs.Validity.Checks

/-!
# Well-formed declarations

Code is made of a declaration without looking at it again: it takes the first component of a scalar
identifier for the value, and it goes through the components of a combined one and their unspecified
values side by side.  What it relies on is `Declaration.WellFormed`.

**`Declaration.Accepted.wellFormed`**: all declarations that code is made of are well-formed.
-/

set_option autoImplicit false

namespace TypedIds

/-- A type that is no identifier has a value only if nothing in it is known to have no equality. -/
theorem ComponentDefault.mayCompare_of_infer {x : Index} {c : Component} {v : ComponentDefault}
    (h : infer x c = .ok v) (hid : isIdentifier x c.ty = false) : c.ty.MayCompare := by
  rw [← Ty.lacksEquality?_eq_none_iff]
  rw [infer, if_neg (by simp [hid])] at h
  cases hpart : c.ty.lacksEquality? with
  | none => rfl
  | some part =>
    rw [hpart] at h
    cases h

namespace Declaration

/-- What code that is made of a declaration relies on, given the struct as it was declared. -/
structure WellFormed (x : Index) (declared : Struct) (d : Declaration) : Prop where
  /-- The one component of a scalar identifier is the value, and has the name of its accessor. -/
  scalar : d.kind.isScalar = true → d.names = [d.options.valueProperty] ∧ d.defaults = []
  guid : d.kind = .guid → d.types.map Ty.code = [Generated.within d.options.crate.code ["Uuid"]]
  string : d.kind = .string → d.types.map Ty.code = [Generated.absolute ["std", "string", "String"]]
  count : d.kind = .combined → 2 ≤ d.components.length ∧ d.components.length ≤ 8
  /-- There is one value for each component, in order: the one that is inferred for it. -/
  defaults : d.kind = .combined →
    List.Forall₂ (fun c v ↦ ComponentDefault.infer x c = .ok v) d.components d.defaults
  /-- Components have equality for all that is known, except that nothing is asked of those that
  are named like an identifier. -/
  comparable : d.kind = .combined → ∀ c ∈ d.components,
    ComponentDefault.isIdentifier x c.ty = false → c.ty.MayCompare
  fields : d.item.fields.isEmpty = true
  generics : d.item.generics.isEmpty = true
  predicates : d.item.predicates = none
  unmarked : ∀ a ∈ d.item.attributes, a.isMarker = false
  attributes : d.item.attributes = declared.attributes.filter (!·.isMarker)
  visibility : d.item.visibility = declared.visibility
  name : d.name = declared.name
  /-- A function that an option names is the hook, whatever else could be one. -/
  hook : ∀ f, d.options.check = some f → d.hook = some ⟨f, .resultValue⟩

variable {x : Index} {s : Struct} {d : Declaration}

/-- **Code is made of well-formed declarations only.** -/
theorem Accepted.wellFormed (h : Accepted x s d) : d.WellFormed x s := by
  obtain ⟨span, hcheck⟩ := h.exists_check
  obtain ⟨hshape, -, hcount, -, -⟩ := Validity.check_eq_ok_iff.mp hcheck
  obtain ⟨hgenerics, hpredicates, hfields⟩ := Validity.checkShape_eq_ok_iff.mp hshape
  refine {
    scalar := fun hk ↦ ⟨by rw [names, h.components_eq hk]; rfl, h.defaults_eq hk⟩
    guid := h.types_guid
    string := h.types_string
    count := Validity.checkCount_eq_ok_iff.mp hcount
    defaults := h.forall₂_infer
    comparable := fun hk c hc hid ↦ ?comparable
    fields := hfields
    generics := hgenerics
    predicates := hpredicates
    unmarked := fun a ha ↦ ?unmarked
    attributes := by rw [h.item_eq, Struct.withoutMarkers]
    visibility := by rw [h.item_eq, Struct.withoutMarkers]
    name := by rw [name, h.item_eq, Struct.withoutMarkers]
    hook := fun f ↦ h.hook_eq }
  case comparable =>
    have hboth := (h.forall₂_infer hk).imp fun c v hv ↦
      And.intro (ComponentDefault.mayCompare_of_infer hv) hv
    exact ((List.forall₂_and_left _ _).mp hboth).1 c hc hid
  case unmarked =>
    rw [h.item_eq, Struct.withoutMarkers] at ha
    simpa using (List.mem_filter.mp ha).2

/-- A module with an identifier, and another one that has it as a component and names its hook. -/
def shopModule : String :=
  "mod shop \x7b #[guid_id] struct Sku; #[doc(hidden)] " ++
    "#[combined_id(sku: Sku, size: u8, check = \"fits\")] pub(crate) struct Key; \x7d"

theorem wellFormed_shopModule :
    ∃ item head items c d,
      Tree.read shopModule = .ok item ∧ moduleToExpand [] item = .ok (head, items) ∧
        c ∈ Item.candidatesAll [] items ∧ c.declaration? (.ofItems items) = .ok (.ok (some d)) ∧
          d.options.check = some "fits" ∧ d.WellFormed (.ofItems items) c.item := by
  have h : declares shopModule (fun _ d ↦ d.options.check == some "fits") = true := by
    decide +kernel
  obtain ⟨item, head, items, c, d, hitem, hmodule, hc, hd, h⟩ := exists_of_declares h
  have haccepted : Accepted (.ofItems items) c.item d := .candidate hmodule hc hd
  exact ⟨item, head, items, c, d, hitem, hmodule, hc, hd, eq_of_beq h, haccepted.wellFormed⟩

end Declaration

end TypedIds
