import TypedIds.Generated.Combined
import TypedIds.Proofs.Generated.Crate

/-!
# Where the code of combined identifiers finds the library

Each part of the code of a combined identifier with another path of the library is that with the
path in the place of the word (`Declaration.Lacks.replace_combinedItems`).  The components and their
types are the same; the path is in the unspecified values of those components that are
identifiers.
-/

set_option autoImplicit false

namespace TypedIds

open Generated

/-! ## Lists of expressions and statements -/

namespace Generated

theorem Expr.codeList_eq_separate (es : List Expr) :
    Expr.codeList es = Code.separate (mark ',') (es.map Expr.code) := by
  induction es with
  | nil => rfl
  | cons e es ih =>
    cases es with
    | nil => exact (List.append_nil _).symm
    | cons f es =>
      simp only [Expr.codeList, ih, List.map_cons, Code.separate, List.intercalate_cons_cons]

theorem Expr.codeTerminated_eq_terminate (es : List Expr) :
    Expr.codeTerminated es = Code.terminate (mark ',') (es.map Expr.code) := by
  induction es with
  | nil => rfl
  | cons e es ih => rw [Expr.codeTerminated, ih]; rfl

theorem Stmt.codeAll_eq_flatMap (ss : List Stmt) : Stmt.codeAll ss = ss.flatMap Stmt.code := by
  induction ss with
  | nil => rfl
  | cons s ss ih => rw [Stmt.codeAll, ih, List.flatMap_cons]

end Generated

namespace Declaration.Lacks

variable {d : Declaration} {x : String} (h : d.Lacks x) (p : Path)

include h

/-! ## Unspecified values -/

theorem replace_defaultExpr {v : ComponentDefault} (hv : v ∈ d.defaults) :
    (defaultExpr (.ofName x) v).code.replace x p.code = (defaultExpr p v).code := by
  have htype (t : Ty) (ht : x ∉ t.code.words) : t.code.replace x p.code = t.code :=
    Code.replace_eq_self ht
  have hwords := h.notMem_default hv
  cases v with
  | identifier t => simp [defaultExpr, code_expr, expressions, pieces, htype t hwords, h.own]
  | null => simp [defaultExpr, code_expr, pieces, h.own]
  | empty member t =>
    cases member <;> simp [defaultExpr, emptyMember, code_expr, pieces, htype t hwords, h.own]
  | default t => simp [defaultExpr, code_expr, pieces, htype t hwords, h.own]

theorem replace_defaults :
    ((Combined.defaults (d.withCrate (.ofName x))).map Expr.code).map (Code.replace · x p.code) =
      (Combined.defaults (d.withCrate p)).map Expr.code := by
  simp only [Combined.defaults, defaults_withCrate, crate_withCrate, List.map_map,
    List.map_inj_left]
  exact fun v hv ↦ h.replace_defaultExpr p hv

theorem replace_unspecifiedParts (docs : List String) :
    (unspecified (d.withCrate (.ofName x)) docs (Combined.defaults (d.withCrate (.ofName x)))
        (.tuple (Combined.defaults (d.withCrate (.ofName x))))).code.replace x p.code =
      (unspecified (d.withCrate p) docs (Combined.defaults (d.withCrate p))
        (.tuple (Combined.defaults (d.withCrate p)))).code := by
  have hdefaults := h.replace_defaults p
  refine h.replace_unspecified p docs ?_ ?_
  · simp only [Expr.codeList_eq_separate, Code.replace_separate, hdefaults]
    rfl
  · simp only [code_expr, Expr.codeTerminated_eq_terminate, Code.replace_within,
      Code.replace_terminate, hdefaults]
    rfl

/-! ## Own members -/

section

variable (hk : d.kind.isScalar = false)

include hk

theorem replace_combinedNew :
    (Combined.new (d.withCrate (.ofName x))).code.replace x p.code =
      (Combined.new (d.withCrate p)).code := by
  rw [Combined.new, Combined.new, names, names, components_withCrate d _ hk,
    components_withCrate d _ hk]
  refine h.replace_constructor p _ ?_ rfl ?_
  · rw [List.map_map, List.map_inj_left]
    intro c hc
    simp [pieces, h.component_ne hc, h.replace_type hk hc]
  · simp only [code_expr, Expr.codeTerminated_eq_terminate, Code.replace_within,
      Code.replace_terminate, List.map_map]
    congr 2
    rw [List.map_inj_left]
    intro c hc
    simp [code_expr, expressions, pieces, h.component_ne hc]

omit hk in
theorem replace_part (i : Nat) (q : Code) :
    (Combined.part i).code.replace x q = (Combined.part i).code := by
  simp [Combined.part, code_expr, pieces, h.replace_wrapped]

theorem replace_partAccessors :
    Code.replace ((Combined.partAccessors (d.withCrate (.ofName x))).flatMap Function.code) x
        p.code =
      (Combined.partAccessors (d.withCrate p)).flatMap Function.code := by
  rw [Combined.partAccessors, Combined.partAccessors, components_withCrate d _ hk,
    components_withCrate d _ hk]
  refine Code.replace_flatMap_eq fun f hf ↦ ?_
  obtain ⟨⟨c, i⟩, hmem, rfl⟩ := List.mem_map.mp hf
  have hc : c ∈ d.components := List.fst_mem_of_mem_zipIdx hmem
  exact h.replace_accessor p [] (h.component_ne hc) (h.replace_type hk hc _) (h.replace_part i _)

omit hk in
theorem replace_intoParts :
    (Combined.intoParts (d.withCrate (.ofName x))).code.replace x p.code =
      (Combined.intoParts (d.withCrate p)).code := by
  simp [Combined.intoParts, code_item, code_stmt, code_expr, pieces, h.replace_valueType,
    h.replace_wrapped, h.own]

theorem replace_combinedMembers :
    Code.replace ((Combined.members (d.withCrate (.ofName x))).flatMap Function.code) x p.code =
      (Combined.members (d.withCrate p)).flatMap Function.code := by
  have haccessor := fun docs ↦ h.replace_accessor p docs h.valueProperty_ne (h.replace_valueType p)
    (h.replace_wrapped _)
  simp only [Combined.members, List.flatMap_append, List.flatMap_cons, List.flatMap_nil,
    Code.replace_append, Code.replace_nil, valueProperty_withCrate, h.replace_combinedNew p hk,
    h.replace_unspecifiedParts p, h.replace_isUnspecified, h.replace_partAccessors p hk, haccessor,
    h.replace_intoParts p]

theorem replace_demands :
    (demands (d.withCrate (.ofName x)).components).code.replace x p.code =
      (demands (d.withCrate p).components).code := by
  rw [components_withCrate d _ hk, components_withCrate d _ hk]
  have hchecks : Code.replace (d.components.flatMap fun c ↦
      typeCall "assert_component" c.ty.code ++ typeCall "assert_display" c.ty.displayed.code) x
        p.code = d.components.flatMap fun c ↦
      typeCall "assert_component" c.ty.code ++ typeCall "assert_display" c.ty.displayed.code := by
    refine Code.replace_flatMap_eq fun c hc ↦ ?_
    simp [typeCall, pieces, h.replace_type hk hc, h.replace_displayed hk hc, h.own]
  simp [demands, Generated.Item.code, assertionCode, boundCode, unsized, bars, pieces,
    List.flatMap_map, hchecks, h.own]

/-! ## Formatting -/

omit hk in
theorem replace_writeText (text : String) (q : Code) :
    (Combined.writeText text).code.replace x q = (Combined.writeText text).code := by
  simp [Combined.writeText, code_expr, expressions, pieces, h.own]

omit hk in
theorem replace_writePart (i : Nat) (v : ComponentDefault) (q : Code) :
    (Combined.writePart i v).code.replace x q = (Combined.writePart i v).code := by
  cases v <;>
    simp [Combined.writePart, formatValue, somePath, code_stmt, code_expr, expressions, pieces,
      h.replace_part, h.own]

theorem replace_displayFormat :
    (Combined.displayFormat (d.withCrate (.ofName x))).code.replace x p.code =
      (Combined.displayFormat (d.withCrate p)).code := by
  rw [Combined.displayFormat, Combined.displayFormat, components_withCrate d _ hk,
    components_withCrate d _ hk]
  refine h.replace_formatting p (by simp [h.own]) ?_ (h.replace_writeText _ _)
  simp only [Stmt.codeAll_eq_flatMap]
  refine Code.replace_flatMap_eq fun s hs ↦ ?_
  rcases List.mem_cons.mp hs with rfl | hs
  · simp [code_stmt, code_expr, pieces, h.replace_writeText]
  · obtain ⟨⟨v, i⟩, -, hs⟩ := List.mem_flatMap.mp hs
    rcases List.mem_append.mp hs with hs | hs
    · split at hs
      · cases hs
      · obtain rfl := List.mem_singleton.mp hs
        simp [code_stmt, code_expr, pieces, h.replace_writeText]
    · obtain rfl := List.mem_singleton.mp hs
      exact h.replace_writePart i v _

omit hk in
/-- A chain of calls that show the fields. -/
theorem replace_fields (cs : List (Component × Nat)) {e : Expr} {q : Code}
    (he : e.code.replace x q = e.code) :
    (cs.foldl (fun e c ↦
        .method e "field" [.text c.1.name, .borrow (Combined.part c.2)]) e).code.replace x q =
      (cs.foldl (fun e c ↦
        .method e "field" [.text c.1.name, .borrow (Combined.part c.2)]) e).code := by
  induction cs generalizing e with
  | nil => exact he
  | cons c cs ih =>
    refine ih ?_
    simp [code_expr, pieces, he, h.replace_part, h.own]

theorem replace_debugFormat :
    (Combined.debugFormat (d.withCrate (.ofName x))).code.replace x p.code =
      (Combined.debugFormat (d.withCrate p)).code := by
  rw [Combined.debugFormat, Combined.debugFormat, components_withCrate d _ hk,
    components_withCrate d _ hk]
  refine h.replace_formatting p (by simp [h.own]) rfl ?_
  have hstart : Code.replace (Expr.method (.var "f") "debug_struct" [typeLabel d]).code x p.code =
      (Expr.method (.var "f") "debug_struct" [typeLabel d]).code := by
    simp [code_expr, expressions, pieces, h.own]
  have hfinish (e : Expr) (he : e.code.replace x p.code = e.code) :
      (Expr.method e "finish" []).code.replace x p.code = (Expr.method e "finish" []).code := by
    simp [code_expr, pieces, he, h.own]
  exact hfinish _ (h.replace_fields _ hstart)

/-! ## All items -/

theorem replace_combinedItems :
    (Generated.Item.codeAll (Combined.items (d.withCrate (.ofName x)))).replace x p.code =
      Generated.Item.codeAll (Combined.items (d.withCrate p)) := by
  have htraits := h.replace_coreTraits p
  simp only [Generated.Item.codeAll] at htraits
  simp [Combined.items, Generated.Item.codeAll, -List.map_append, h.replace_definition,
    h.replace_demands p hk, h.replace_ownMembers p (h.replace_combinedMembers p hk), htraits,
    h.replace_toValue, h.replace_displayFormat p hk, h.replace_debugFormat p hk]

end

end Declaration.Lacks

end TypedIds
