import TypedIds.Generated.Code
import TypedIds.Proofs.Generated.Replace
import TypedIds.Proofs.Grammar.Path

/-!
# The words of generated code

The words of generated code are those that it has of its own, which are not `Generated.Foreign` to
it, those of the declaration (`Declaration.words`), and those of the path of the library, which
stands wherever the code needs something of the library.  `Declaration.withCrate` changes that path
and nothing else, and `Declaration.Lacks` says of a word that it stands nowhere else.
-/

set_option autoImplicit false

namespace TypedIds

/-! ## Words of types -/

namespace Code

/-- Every piece is in what they are put together to. -/
theorem subset_separate {between c : Code} {cs : List Code} (h : c ∈ cs) :
    c ⊆ separate between cs := by
  induction cs with
  | nil => cases h
  | cons d cs ih =>
    cases cs with
    | nil =>
      obtain rfl := List.mem_singleton.mp h
      simp [separate]
    | cons e cs =>
      simp only [separate, List.intercalate_cons_cons] at ih ⊢
      rcases List.mem_cons.mp h with rfl | h
      · exact List.subset_append_of_subset_left _ (List.subset_append_left ..)
      · exact List.subset_append_of_subset_right _ (ih h)

/-- No piece is lost when lifetimes move to the front. -/
theorem subset_lifetimesFirst {c : Code} {isLifetime : Bool} {pieces : List (Bool × Code)}
    (h : (isLifetime, c) ∈ pieces) (trailing : Bool) : c ⊆ lifetimesFirst pieces trailing := by
  refine List.subset_append_of_subset_left _ (subset_separate ?_)
  exact List.mem_map.mpr ⟨(isLifetime, c), List.mem_append.mpr (List.mem_partition.mp h), rfl⟩

end Code

namespace Ty

/-- The argument of a type is written in the type. -/
theorem code_subset_of_argumentOf? {name : String} {t u : Ty} (h : t.argumentOf? name = some u) :
    u.code ⊆ t.code := by
  have hargs (m : String) (turbofish : Bool) (more : List Arg) (trailing : Bool) :
      u.code ⊆ Segment.code ⟨m, .angle turbofish (.type u :: more) trailing⟩ := by
    have hfirst : (false, u.code) ∈ Arg.codes (.type u :: more) := List.mem_cons_self
    intro w hw
    have hmem := Code.subset_lifetimesFirst hfirst trailing hw
    simp [Segment.code, Args.code, Code.angle, hmem]
  rw [argumentOf?] at h
  split at h
  next m turbofish more trailing hlast =>
    split at h
    · obtain rfl := Option.some.inj h
      cases t <;> cases hlast
      all_goals exact List.subset_append_of_subset_right _ (hargs ..)
    · cases h
  · cases h
/-- What is written out for a type has no other words than the type. -/
theorem words_displayed_subset (t : Ty) : t.displayed.code.words ⊆ t.code.words := by
  rw [displayed]
  cases h : t.argumentOf? "Option" with
  | none => exact List.Subset.refl _
  | some u => exact List.filterMap_subset _ (code_subset_of_argumentOf? h)

end Ty

/-! ## Words of declarations -/

namespace Generated

/-- The word is none of those that generated code has of its own, whatever is declared.  These are
words of the language, names of the core library, names inside of the library that generated code
needs, and names that generated code declares. -/
abbrev Foreign (x : String) : Prop :=
  "_" ≠ x ∧ "as" ≠ x ∧ "bool" ≠ x ∧ "const" ≠ x ∧ "fn" ≠ x ∧ "for" ≠ x ∧ "if" ≠ x ∧ "impl" ≠ x ∧
  "let" ≠ x ∧ "mut" ≠ x ∧ "pub" ≠ x ∧ "return" ≠ x ∧ "self" ≠ x ∧ "Self" ≠ x ∧ "static" ≠ x ∧
  "str" ≠ x ∧ "struct" ≠ x ∧ "type" ≠ x ∧ "where" ≠ x ∧ "AsRef" ≠ x ∧ "Clone" ≠ x ∧ "Copy" ≠ x ∧
  "Debug" ≠ x ∧ "Default" ≠ x ∧ "Display" ≠ x ∧ "Eq" ≠ x ∧ "Formatter" ≠ x ∧ "From" ≠ x ∧
  "FromStr" ≠ x ∧ "Hash" ≠ x ∧ "Into" ≠ x ∧ "LowerHex" ≠ x ∧ "None" ≠ x ∧ "Ok" ≠ x ∧ "Option" ≠ x ∧
  "Ord" ≠ x ∧ "PartialEq" ≠ x ∧ "PartialOrd" ≠ x ∧ "Result" ≠ x ∧ "Sized" ≠ x ∧ "Some" ≠ x ∧
  "String" ≠ x ∧ "ToOwned" ≠ x ∧ "ToString" ≠ x ∧ "TryFrom" ≠ x ∧ "UpperHex" ≠ x ∧ "as_ref" ≠ x ∧
  "borrow" ≠ x ∧ "clone" ≠ x ∧ "cmp" ≠ x ∧ "convert" ≠ x ∧ "core" ≠ x ∧ "debug_struct" ≠ x ∧
  "debug_tuple" ≠ x ∧ "default" ≠ x ∧ "derive" ≠ x ∧ "doc" ≠ x ∧ "field" ≠ x ∧ "finish" ≠ x ∧
  "fmt" ≠ x ∧ "from" ≠ x ∧ "from_str" ≠ x ∧ "hash" ≠ x ∧ "into" ≠ x ∧ "map_err" ≠ x ∧
  "marker" ≠ x ∧ "option" ≠ x ∧ "result" ≠ x ∧ "std" ≠ x ∧ "string" ≠ x ∧ "to_owned" ≠ x ∧
  "to_string" ≠ x ∧ "try_from" ≠ x ∧ "unwrap_or_else" ≠ x ∧ "write_str" ≠ x ∧ "Converter" ≠ x ∧
  "OnceCell" ≠ x ∧ "ScalarIdentifier" ≠ x ∧ "ScalarValue" ≠ x ∧ "TYPE_NAME" ≠ x ∧
  "TypeToStringConverter" ≠ x ∧ "TypedIdError" ≠ x ∧ "TypedIdentifier" ≠ x ∧ "Uuid" ≠ x ∧
  "Value" ≠ x ∧ "__private" ≠ x ∧ "convert_from_string" ≠ x ∧ "convert_to_string" ≠ x ∧
  "empty" ≠ x ∧ "get_or_init" ≠ x ∧ "into_value" ≠ x ∧ "is_empty_value" ≠ x ∧ "nil" ≠ x ∧
  "parse" ≠ x ∧ "parse_text" ≠ x ∧ "reject" ≠ x ∧ "try_from_value" ≠ x ∧ "EMPTY" ≠ x ∧ "Err" ≠ x ∧
  "Error" ≠ x ∧ "T" ≠ x ∧ "UNSPECIFIED" ≠ x ∧ "assert_component" ≠ x ∧ "assert_display" ≠ x ∧
  "err" ≠ x ∧ "f" ≠ x ∧ "id" ≠ x ∧ "into_parts" ≠ x ∧ "is_unspecified" ≠ x ∧ "new" ≠ x ∧
  "part" ≠ x ∧ "text" ≠ x ∧ "unspecified" ≠ x ∧ "value" ≠ x

/-- The name of the library is not built in. -/
example : Foreign "strong_id" := by and_intros <;> decide

end Generated

/-- The words of the type that is written for the unspecified value of a component. -/
def ComponentDefault.words : ComponentDefault → List String
  | .identifier t | .empty _ t | .default t => t.code.words
  | .null => []

namespace Declaration

/-- The words of a declaration, but for those of the path of the library. -/
def words (d : Declaration) : List String :=
  (Attribute.codeAll d.item.attributes).words ++ d.item.visibility.words ++
    [d.name, d.name ++ "Converter", d.options.valueProperty] ++
    d.hook.toList.map Hook.name ++ d.names ++
    (if d.kind.isScalar then [] else d.types.flatMap (·.code.words)) ++
    d.defaults.flatMap ComponentDefault.words

/-- The declaration with another path of the library.  The type of UUIDs lies there. -/
def withCrate (d : Declaration) (p : Path) : Declaration :=
  let options := { d.options with crate := p }
  { d with
    options
    components := if d.kind.isScalar then [scalarComponent d.kind options] else d.components }

/-- The word is none of those that generated code has of its own, and none of the declaration, but
for the path of the library. -/
structure Lacks (d : Declaration) (x : String) : Prop where
  own : Generated.Foreign x
  declared : x ∉ d.words

end Declaration

namespace Declaration

section

variable (d : Declaration) (p : Path)

@[simp] theorem kind_withCrate : (d.withCrate p).kind = d.kind := rfl
@[simp] theorem item_withCrate : (d.withCrate p).item = d.item := rfl
@[simp] theorem name_withCrate : (d.withCrate p).name = d.name := rfl
@[simp] theorem hook_withCrate : (d.withCrate p).hook = d.hook := rfl
@[simp] theorem isFallible_withCrate : (d.withCrate p).isFallible = d.isFallible := rfl
@[simp] theorem defaults_withCrate : (d.withCrate p).defaults = d.defaults := rfl
@[simp] theorem crate_withCrate : (d.withCrate p).options.crate = p := rfl
@[simp] theorem valueProperty_withCrate :
    (d.withCrate p).options.valueProperty = d.options.valueProperty := rfl
@[simp] theorem privateConstructor_withCrate :
    (d.withCrate p).options.privateConstructor = d.options.privateConstructor := rfl

@[simp] theorem withCrate_withCrate (q : Path) : (d.withCrate p).withCrate q = d.withCrate q := by
  rw [withCrate, withCrate, withCrate]
  cases d.kind.isScalar <;> rfl

theorem scalar_withCrate (h : d.kind.isScalar = true) :
    (d.withCrate p).scalar = scalarComponent d.kind { d.options with crate := p } := by
  rw [scalar, withCrate, if_pos h]
  rfl

theorem name_scalar_withCrate (h : d.kind.isScalar = true) :
    (d.withCrate p).scalar.name = d.options.valueProperty := by
  rw [scalar_withCrate d p h]
  rfl

theorem components_withCrate (h : d.kind.isScalar = false) :
    (d.withCrate p).components = d.components := by
  rw [withCrate, h]
  rfl

theorem types_withCrate (h : d.kind.isScalar = false) : (d.withCrate p).types = d.types := by
  rw [types, components_withCrate d p h, types]

end

namespace Lacks

variable {d : Declaration} {x : String} (h : d.Lacks x)

include h

theorem ne_declared {w : String} (hw : w ∈ d.words) : w ≠ x := fun hx ↦ h.declared (hx ▸ hw)

theorem name_ne : d.name ≠ x := h.ne_declared (by simp [words])

theorem converter_ne : d.name ++ "Converter" ≠ x := h.ne_declared (by simp [words])

theorem valueProperty_ne : d.options.valueProperty ≠ x := h.ne_declared (by simp [words])

theorem hook_ne {f : Hook} (hf : d.hook = some f) : f.name ≠ x :=
  h.ne_declared (by simp [words, hf])

theorem component_ne {c : Component} (hc : c ∈ d.components) : c.name ≠ x :=
  h.ne_declared (by simp [words, names, List.mem_map_of_mem hc])

theorem replace_attributes (q : Code) :
    (Attribute.codeAll d.item.attributes).replace x q = Attribute.codeAll d.item.attributes :=
  Code.replace_eq_self fun hx ↦ h.declared (by simp [words, hx])

theorem replace_visibility (q : Code) : d.item.visibility.replace x q = d.item.visibility :=
  Code.replace_eq_self fun hx ↦ h.declared (by simp [words, hx])

theorem notMem_type {c : Component} (hk : d.kind.isScalar = false) (hc : c ∈ d.components) :
    x ∉ c.ty.code.words := by
  refine fun hx ↦ h.declared ?_
  simp only [words, hk, Bool.false_eq_true, if_false, types, List.mem_append, List.mem_flatMap,
    List.mem_map]
  exact .inl (.inr ⟨c.ty, ⟨c, hc, rfl⟩, hx⟩)

theorem notMem_default {v : ComponentDefault} (hv : v ∈ d.defaults) : x ∉ v.words := by
  refine fun hx ↦ h.declared ?_
  rw [words, List.mem_append]
  exact .inr (List.mem_flatMap.mpr ⟨v, hv, hx⟩)

end Lacks

end Declaration

end TypedIds
