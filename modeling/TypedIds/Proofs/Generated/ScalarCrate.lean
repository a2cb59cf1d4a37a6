import TypedIds.Generated.Scalar
import TypedIds.Proofs.Generated.Crate

/-!
# Where the code of scalar identifiers finds the library

Each part of the code of a scalar identifier with another path of the library is that with the path
in the place of the word (`Declaration.Lacks.replace_scalarItems`).  The path is also in the type of
the wrapped value, if that is a UUID.
-/

set_option autoImplicit false

namespace TypedIds

open Generated

namespace Declaration.Lacks

variable {d : Declaration} {x : String} (h : d.Lacks x) (p : Path) (hk : d.kind.isScalar = true)

include h hk

theorem replace_scalarNew :
    (Scalar.new (d.withCrate (.ofName x))).code.replace x p.code =
      (Scalar.new (d.withCrate p)).code := by
  have htype := h.replace_scalarType p hk
  have hinput : (Expr.var d.options.valueProperty).code.replace x p.code =
      (Expr.var d.options.valueProperty).code := by
    simp [code_expr, expressions, pieces, h.valueProperty_ne]
  rw [Scalar.new, Scalar.new, kind_withCrate, kind_withCrate, name_scalar_withCrate d _ hk,
    name_scalar_withCrate d _ hk]
  split
  · refine h.replace_constructor p _ ?_ ?_ hinput <;>
      simp [Scalar.valueType, code_stmt, code_expr, expressions, pieces, htype, h.valueProperty_ne,
        h.own]
  · refine h.replace_constructor p _ ?_ rfl hinput
    simp [Scalar.valueType, pieces, htype, h.valueProperty_ne]

theorem replace_empty :
    (Scalar.empty (d.withCrate (.ofName x))).code.replace x p.code =
      (Scalar.empty (d.withCrate p)).code := by
  simp [Scalar.empty, Scalar.valueCall, Scalar.valueType, code_expr, pieces, h.replace_scalarType p
    hk, h.own]

theorem replace_accessorType :
    (Scalar.accessorType (d.withCrate (.ofName x))).replace x p.code =
      Scalar.accessorType (d.withCrate p) := by
  rw [Scalar.accessorType, Scalar.accessorType, kind_withCrate, kind_withCrate]
  split
  · simp [pieces, h.own]
  · exact h.replace_scalarType p hk

theorem replace_scalarMembers :
    Code.replace ((Scalar.members (d.withCrate (.ofName x))).flatMap Function.code) x p.code =
      (Scalar.members (d.withCrate p)).flatMap Function.code := by
  have hempty := h.replace_empty p hk
  have hargs : (Expr.codeList [Scalar.empty (d.withCrate (.ofName x))]).replace x p.code =
      Expr.codeList [Scalar.empty (d.withCrate p)] := by
    rwa [Expr.codeList, Expr.codeList]
  have haccessor := h.replace_accessor p [] h.valueProperty_ne (h.replace_accessorType p hk)
    (h.replace_wrapped _)
  simp only [Scalar.members, List.flatMap_cons, List.flatMap_nil, Code.replace_append,
    Code.replace_nil, name_scalar_withCrate d _ hk, h.replace_scalarNew p hk,
    h.replace_unspecified p _ hargs hempty, h.replace_isUnspecified, haccessor]

theorem replace_fromValue :
    (Scalar.fromValue (d.withCrate (.ofName x))).code.replace x p.code =
      (Scalar.fromValue (d.withCrate p)).code := by
  have htype := h.replace_scalarType p hk
  cases hf : d.isFallible <;> cases hh : d.hook <;>
    simp [Scalar.fromValue, Scalar.tryFromValue, Scalar.emptyShortcut, Scalar.isEmpty,
      Scalar.valueCall, Scalar.unspecifiedCopy, Scalar.tryOutput, Scalar.valueType, code_item,
      code_stmt, code_expr, expressions, pieces, hf, hh, htype, h.name_ne, h.own]

theorem replace_fromText :
    (Scalar.fromText (d.withCrate (.ofName x))).code.replace x p.code =
      (Scalar.fromText (d.withCrate p)).code := by
  have htype := h.replace_scalarType p hk
  cases hf : d.isFallible <;>
    simp [Scalar.fromText, Scalar.tryFromValue, Scalar.tryOutput, Scalar.borrowedText,
      Scalar.ownedText, Scalar.valueType, code_item, code_stmt, code_expr, expressions, pieces, hf,
      htype, h.name_ne, h.own]

omit hk in
theorem replace_asRef {type type' : Code} (htype : type.replace x p.code = type') :
    (Scalar.asRef (d.withCrate (.ofName x)) type).code.replace x p.code =
      (Scalar.asRef (d.withCrate p) type').code := by
  simp [Scalar.asRef, code_item, code_stmt, code_expr, expressions, pieces, htype, h.name_ne, h.own]

theorem replace_conversions :
    Code.replace ((Scalar.conversions (d.withCrate (.ofName x))).flatMap Implementation.code) x
        p.code =
      (Scalar.conversions (d.withCrate p)).flatMap Implementation.code := by
  have htext : (word "str").replace x p.code = word "str" := by simp [pieces, h.own]
  have hvalue := h.replace_asRef p (h.replace_scalarType p hk)
  rw [Scalar.conversions, Scalar.conversions, kind_withCrate, kind_withCrate]
  split <;>
    simp [Scalar.valueType, h.replace_fromValue p hk, h.replace_fromText p hk, h.replace_toValue p,
      hvalue, h.replace_asRef p htext]

omit hk in
theorem replace_formats :
    Code.replace ((Scalar.formats (d.withCrate (.ofName x))).flatMap Implementation.code) x
        p.code =
      (Scalar.formats (d.withCrate p)).flatMap Implementation.code := by
  have hformat (trait : String) (ht : trait ≠ x) :
      (Scalar.formatAs (d.withCrate (.ofName x)) trait).code.replace x p.code =
        (Scalar.formatAs (d.withCrate p) trait).code := by
    refine h.replace_formatting p ht rfl ?_
    simp [formatValue, code_expr, expressions, pieces, ht, h.own]
  have hdebug : (Scalar.debugFormat (d.withCrate (.ofName x))).code.replace x p.code =
      (Scalar.debugFormat (d.withCrate p)).code := by
    refine h.replace_formatting p (by simp [h.own]) rfl ?_
    simp [code_expr, expressions, pieces, h.own]
  rw [Scalar.formats, Scalar.formats, kind_withCrate, kind_withCrate]
  split <;> simp [hformat, hdebug, h.own]

/-! ## The converter -/

variable {converter : String} (hc : converter ≠ x)

include hc

theorem replace_scalarTrait :
    (Scalar.scalarTrait (d.withCrate (.ofName x)) converter).code.replace x p.code =
      (Scalar.scalarTrait (d.withCrate p) converter).code := by
  have htype := h.replace_scalarType p hk
  cases hf : d.isFallible <;> cases hh : d.hook <;>
    simp [Scalar.scalarTrait, Scalar.tryOutput, Scalar.emptyShortcut, Scalar.isEmpty,
      Scalar.valueCall, Scalar.unspecifiedCopy, Scalar.valueType, tryNew, code_item, code_stmt,
      code_expr, expressions, pieces, hf, hh, hc, htype, h.name_ne, h.own]

omit hk in
theorem replace_fromStr :
    (Scalar.fromStr (d.withCrate (.ofName x)) converter).code.replace x p.code =
      (Scalar.fromStr (d.withCrate p) converter).code := by
  simp [Scalar.fromStr, Scalar.converterTrait, Scalar.tryOutput, code_item, code_stmt, code_expr,
    expressions, pieces, hc, h.name_ne, h.own]

omit hk in
theorem replace_converterDefinition :
    (Scalar.converterDefinition (d.withCrate (.ofName x)) converter).code.replace x p.code =
      (Scalar.converterDefinition (d.withCrate p) converter).code := by
  simp [Scalar.converterDefinition, deriveCode, code_item, code_expr, pieces, hc,
    h.replace_visibility, h.own]

theorem replace_converterMembers :
    (Scalar.converterMembers (d.withCrate (.ofName x)) converter).code.replace x p.code =
      (Scalar.converterMembers (d.withCrate p) converter).code := by
  have htype := h.replace_scalarType p hk
  simp [Scalar.converterMembers, Scalar.converterTrait, Scalar.parsed, Scalar.valueCall, bars,
    Scalar.valueType, code_item, code_stmt, code_expr, expressions, pieces, hc, htype, h.name_ne,
    h.own]

theorem replace_scalarItems :
    (Generated.Item.codeAll (Scalar.items (d.withCrate (.ofName x)) converter)).replace x p.code =
      Generated.Item.codeAll (Scalar.items (d.withCrate p) converter) := by
  have himplementations (is : List Implementation) :
      (is.map Generated.Item.implementation).flatMap Generated.Item.code =
        is.flatMap Implementation.code := List.flatMap_map ..
  have htraits := h.replace_coreTraits p
  simp only [Generated.Item.codeAll] at htraits
  simp [Scalar.items, Generated.Item.codeAll, himplementations,
    -List.map_append, h.replace_definition, h.replace_ownMembers p (h.replace_scalarMembers p hk),
    h.replace_conversions p hk, h.replace_formats p, htraits, h.replace_scalarTrait p hk hc,
    h.replace_fromStr p hc, h.replace_converterDefinition p hc, h.replace_converterMembers p hk hc]

end Declaration.Lacks

end TypedIds
