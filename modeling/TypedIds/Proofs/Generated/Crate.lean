import TypedIds.Proofs.Declaration.Accepted
import TypedIds.Proofs.Generated.Words

/-!
# Where generated code finds the library

Generated code has the path of the library wherever it needs something of it, and depends on the
path in no other way: if the path is a single word that stands nowhere else, the code with any other
path is that with the other path in the place of the word.

This is shown for one piece of code after the other, here for those that all identifiers have.
Writing out what a piece consists of leaves tokens; the word that is replaced is none of them but
where the path is.
-/

set_option autoImplicit false

namespace TypedIds

namespace Generated

/-- The small pieces of generated code, token by token. -/
theorem pieces :
    (word = fun w ↦ [.word w]) ∧ (mark = fun c ↦ [.mark c false]) ∧
    (selfType = [.word "Self"]) ∧ (selfParam = [.word "self"]) ∧
    (selfRef = [.mark '&' false, .word "self"]) ∧ (reference = fun t ↦ .mark '&' false :: t) ∧
    (param = fun n t ↦ .word n :: .mark ':' false :: t) ∧
    (absolute = fun names ↦ names.flatMap fun n ↦ Code.op "::" ++ [.word n]) ∧
    (within = fun path names ↦ path ++ absolute names) ∧
    (asTrait = fun t trait ↦ Code.angle (t ++ word "as" ++ trait)) ∧
    (typeName = fun d ↦ [.word d.name]) ∧
    (library = fun d names ↦ d.options.crate.code ++ absolute names) ∧
    (errorType = fun d ↦ library d ["TypedIdError"]) ∧
    (resultType = fun value error ↦
      absolute ["core", "result", "Result"] ++ Code.angle (value ++ mark ',' ++ error)) :=
  ⟨rfl, rfl, rfl, rfl, rfl, rfl, rfl, rfl, rfl, rfl, rfl, rfl, rfl, rfl⟩

/-- The small expressions of generated code. -/
theorem expressions :
    (typeLabel = fun d ↦ .text d.name) ∧ (Expr.var = fun n ↦ .name (word n)) ∧
    (Expr.wrapped = .field (.var "self") "value") ∧
    (Expr.clone = fun e ↦ .call (absolute ["core", "clone", "Clone", "clone"]) [e]) ∧
    (Expr.ok = fun e ↦ .call (absolute ["core", "result", "Result", "Ok"]) [e]) ∧
    (Expr.ownCall = fun n es ↦ .call (within selfType [n]) es) :=
  ⟨rfl, rfl, rfl, rfl, rfl, rfl⟩

/-- How expressions are written. -/
theorem code_expr :
    (∀ c, (Expr.name c).code = c) ∧ (∀ s, (Expr.text s).code = [.literal (Text.quoteLiteral s)]) ∧
    (∀ c es, (Expr.call c es).code = c ++ Code.within .parens (Expr.codeList es)) ∧
    (∀ e n es, (Expr.method e n es).code =
      e.code ++ mark '.' ++ word n ++ Code.within .parens (Expr.codeList es)) ∧
    (∀ e, (Expr.propagate e).code = e.code ++ mark '?') ∧
    (∀ e n, (Expr.field e n).code = e.code ++ mark '.' ++ word n) ∧
    (∀ e i, (Expr.index e i).code = e.code ++ mark '.' ++ [.literal (toString i)]) ∧
    (∀ e, (Expr.borrow e).code = mark '&' ++ e.code) ∧
    (∀ es, (Expr.tuple es).code = Code.within .parens (Expr.codeTerminated es)) ∧
    (∀ t, (Expr.construct t none).code = t ++ Code.within .braces (word "value")) ∧
    (∀ t e, (Expr.construct t (some e)).code =
      t ++ Code.within .braces (word "value" ++ mark ':' ++ e.code)) ∧
    (∀ c e, (Expr.closure c e).code = bars c ++ e.code) ∧
    (∀ a b, (Expr.equal a b).code = a.code ++ Code.op "==" ++ b.code) ∧
    (∀ ss e, (Expr.block ss e).code = Code.within .braces (Stmt.codeAll ss ++ e.code)) ∧
    Expr.codeList [] = [] ∧ (∀ e, Expr.codeList [e] = e.code) ∧
    (∀ e f es, Expr.codeList (e :: f :: es) = e.code ++ mark ',' ++ Expr.codeList (f :: es)) ∧
    Expr.codeTerminated [] = [] ∧
    (∀ e es, Expr.codeTerminated (e :: es) = e.code ++ mark ',' ++ Expr.codeTerminated es) :=
  ⟨fun _ ↦ rfl, fun _ ↦ rfl, fun _ _ ↦ rfl, fun _ _ _ ↦ rfl, fun _ ↦ rfl, fun _ _ ↦ rfl,
   fun _ _ ↦ rfl, fun _ ↦ rfl, fun _ ↦ rfl, fun _ ↦ rfl, fun _ _ ↦ rfl, fun _ _ ↦ rfl,
   fun _ _ ↦ rfl, fun _ _ ↦ rfl, rfl, fun _ ↦ rfl, fun _ _ _ ↦ rfl, rfl, fun _ _ ↦ rfl⟩

/-- How statements are written. -/
theorem code_stmt :
    (∀ n e, (Stmt.bind n none e).code = word "let" ++ word n ++ mark '=' ++ e.code ++ mark ';') ∧
    (∀ n t e, (Stmt.bind n (some t) e).code =
      word "let" ++ word n ++ mark ':' ++ t ++ mark '=' ++ e.code ++ mark ';') ∧
    (∀ n t e, (Stmt.shared n t e).code =
      word "static" ++ word n ++ mark ':' ++ t ++ mark '=' ++ e.code ++ mark ';') ∧
    (∀ e, (Stmt.run e).code = e.code ++ mark ';') ∧
    (∀ a b, (Stmt.returnIf a b).code =
      word "if" ++ a.code ++ Code.within .braces (word "return" ++ b.code ++ mark ';')) ∧
    (∀ n e ss, (Stmt.ifSome n e ss).code =
      word "if" ++ word "let" ++ somePath ++ Code.within .parens (word n) ++ mark '=' ++ e.code ++
        Code.within .braces (Stmt.codeAll ss)) ∧
    Stmt.codeAll [] = [] ∧ (∀ s ss, Stmt.codeAll (s :: ss) = s.code ++ Stmt.codeAll ss) :=
  ⟨fun _ _ ↦ rfl, fun _ _ _ ↦ rfl, fun _ _ _ ↦ rfl, fun _ ↦ rfl, fun _ _ ↦ rfl, fun _ _ _ ↦ rfl,
   rfl, fun _ _ ↦ rfl⟩

/-- How items and what they hold are written. -/
theorem code_item :
    (Trait.core = fun m n ↦ ⟨absolute ["core", m], n, none⟩) ∧
    (Trait.coreOf = fun m n a ↦ ⟨absolute ["core", m], n, some a⟩) ∧
    (libraryTrait = fun d n a ↦ ⟨d.options.crate.code, n, a⟩) ∧
    (fromTrait = Trait.coreOf "convert" "From") ∧
    (tryFromTrait = Trait.coreOf "convert" "TryFrom") ∧
    (∀ c n, (Trait.mk c n none).code = c ++ Code.op "::" ++ word n) ∧
    (∀ c n a, (Trait.mk c n (some a)).code = c ++ Code.op "::" ++ word n ++ Code.angle a) ∧
    (∀ f : Function, f.code = f.docs.flatMap docLine ++ f.visibility ++ word "fn" ++ word f.name ++
      Code.within .parens (Code.separate (mark ',') f.params ++ Code.commaIf f.trailing) ++
      (match f.output with | some t => Code.op "->" ++ t | none => []) ++
      (Expr.block f.stmts f.result).code) ∧
    (∀ f, (Member.function f).code = f.code) ∧
    (∀ n t, (Member.typeAlias n t).code = word "type" ++ word n ++ mark '=' ++ t ++ mark ';') ∧
    (∀ n t v, (Member.constant n t v).code =
      word "const" ++ word n ++ mark ':' ++ t ++ mark '=' ++ v.code ++ mark ';') ∧
    (∀ i : Implementation, i.code = word "impl" ++
      (match i.lifetime with | some l => Code.angle [.lifetime l] | none => []) ++
      (match i.trait with | some t => t.code ++ word "for" | none => []) ++ i.target ++
      Code.within .braces (i.members.flatMap Member.code)) ∧
    (∀ d : Definition, d.code = d.attributes ++ deriveCode d.derives ++ d.visibility ++
      word "struct" ++ word d.name ++
      (match d.value with
        | some t => Code.within .braces (word "value" ++ mark ':' ++ t ++ mark ',')
        | none => mark ';')) :=
  ⟨rfl, rfl, rfl, rfl, rfl, fun _ _ ↦ List.append_nil _, fun _ _ _ ↦ rfl, fun _ ↦ rfl, fun _ ↦ rfl,
   fun _ _ ↦ rfl, fun _ _ _ ↦ rfl, fun _ ↦ rfl, fun _ ↦ rfl⟩

@[simp] theorem Item.code_definition (d : Definition) : (Item.definition d).code = d.code := rfl

@[simp] theorem Item.code_implementation (i : Implementation) :
    (Item.implementation i).code = i.code := rfl

theorem Stmt.codeAll_append (ss ts : List Stmt) :
    Stmt.codeAll (ss ++ ts) = Stmt.codeAll ss ++ Stmt.codeAll ts := by
  induction ss with
  | nil => rfl
  | cons s ss ih => rw [List.cons_append, Stmt.codeAll, ih, Stmt.codeAll, List.append_assoc]

end Generated

namespace Declaration.Lacks

open Generated

variable {d : Declaration} {x : String} (h : d.Lacks x) (p : Path)

include h

/-! ## The value -/

theorem replace_scalarType (hk : d.kind.isScalar = true) :
    (d.withCrate (.ofName x)).scalar.ty.code.replace x p.code =
      (d.withCrate p).scalar.ty.code := by
  rw [scalar_withCrate d _ hk, scalar_withCrate d _ hk]
  cases hkind : d.kind with
  | guid =>
    show ((Path.ofName x).child "Uuid").code.replace x p.code = (p.child "Uuid").code
    rw [Path.code_child, Path.code_child]
    simp [pieces, h.own]
  | string =>
    show (Path.ofNames true ["std", "string"] "String").code.replace x p.code =
      (Path.ofNames true ["std", "string"] "String").code
    simp [Path.code, Path.toTy, Path.ofNames, Ty.code, Segment.codeFront, Segment.code, Args.code,
      Code.pathSep, h.own]
  | combined =>
    rw [hkind] at hk
    cases hk

theorem replace_type {c : Component} (hk : d.kind.isScalar = false) (hc : c ∈ d.components)
    (q : Code) : c.ty.code.replace x q = c.ty.code := Code.replace_eq_self (h.notMem_type hk hc)

theorem replace_displayed {c : Component} (hk : d.kind.isScalar = false) (hc : c ∈ d.components)
    (q : Code) : c.ty.displayed.code.replace x q = c.ty.displayed.code :=
  Code.replace_eq_self fun hx ↦ h.notMem_type hk hc (Ty.words_displayed_subset _ hx)

theorem replace_types (hk : d.kind.isScalar = false) (q : Code) :
    (d.types.map Ty.code).map (Code.replace · x q) = d.types.map Ty.code := by
  simp only [types, List.map_map, List.map_inj_left]
  exact fun c hc ↦ h.replace_type hk hc q

theorem replace_valueType :
    (d.withCrate (.ofName x)).valueType.replace x p.code = (d.withCrate p).valueType := by
  rw [valueType, valueType, kind_withCrate, kind_withCrate]
  cases hk : d.kind.isScalar with
  | true => exact h.replace_scalarType p hk
  | false =>
    rw [types_withCrate d _ hk, types_withCrate d _ hk]
    simp [h.replace_types hk]

/-! ## What all identifiers have -/

theorem replace_docs (docs : List String) (q : Code) :
    Code.replace (docs.flatMap docLine) x q = docs.flatMap docLine := by
  have hline : ∀ line, (docLine line).replace x q = docLine line := by
    simp [docLine, pieces, h.own]
  simp [Code.replace_flatMap, hline]

theorem replace_definition :
    (definition (d.withCrate (.ofName x))).code.replace x p.code =
      (definition (d.withCrate p)).code := by
  simp [definition, deriveCode, derivedTraits, code_item, pieces, h.replace_attributes,
    h.replace_visibility, h.replace_valueType, h.name_ne, h.own]

theorem replace_checked {input input' : Expr}
    (hinput : input.code.replace x p.code = input'.code) :
    (checked (d.withCrate (.ofName x)) input).code.replace x p.code =
      (checked (d.withCrate p) input').code := by
  rw [checked, checked, hook_withCrate, hook_withCrate]
  cases hf : d.hook with
  | none => exact hinput
  | some f =>
    have hne := h.hook_ne hf
    cases hr : f.returns <;>
      simp [rejecting, bars, code_stmt, code_expr, expressions, pieces, hr, hinput, hne, h.own]

theorem replace_constructor (docs : List String) {params params' : List Code}
    {before before' : List Stmt} {input input' : Expr}
    (hparams : params.map (Code.replace · x p.code) = params')
    (hbefore : (Stmt.codeAll before).replace x p.code = Stmt.codeAll before')
    (hinput : input.code.replace x p.code = input'.code) :
    (constructor (d.withCrate (.ofName x)) docs params before input).code.replace x p.code =
      (constructor (d.withCrate p) docs params' before' input').code := by
  have hchecked := h.replace_checked p hinput
  cases hv : d.options.privateConstructor <;> cases hf : d.isFallible <;>
    simp [constructor, constructorVisibility, constructorOutput, constructed, Stmt.codeAll_append,
      code_item, code_stmt, code_expr, expressions, pieces, hv, hf, h.replace_docs, hparams,
      hbefore, hchecked, h.own]

theorem replace_unspecified (docs : List String) {args args' : List Expr} {raw raw' : Expr}
    (hargs : (Expr.codeList args).replace x p.code = Expr.codeList args')
    (hraw : raw.code.replace x p.code = raw'.code) :
    (unspecified (d.withCrate (.ofName x)) docs args raw).code.replace x p.code =
      (unspecified (d.withCrate p) docs args' raw').code := by
  cases hf : d.isFallible <;>
    simp [unspecified, unspecifiedInit, bars, code_item, code_stmt, code_expr, expressions, pieces,
      hf, h.replace_docs, hargs, hraw, h.name_ne, h.own]

theorem replace_isUnspecified (q : Code) : isUnspecified.code.replace x q = isUnspecified.code := by
  simp [isUnspecified, code_item, code_stmt, code_expr, expressions, pieces, h.own]

theorem replace_accessor (docs : List String) {name : String} {type type' : Code} {e : Expr}
    (hname : name ≠ x) (htype : type.replace x p.code = type')
    (he : e.code.replace x p.code = e.code) :
    (accessor docs name type e).code.replace x p.code = (accessor docs name type' e).code := by
  simp [accessor, code_item, code_stmt, code_expr, pieces, h.replace_docs, hname, htype, he, h.own]

theorem replace_wrapped (q : Code) : Expr.wrapped.code.replace x q = Expr.wrapped.code := by
  simp [code_expr, expressions, pieces, h.own]

theorem replace_toValue :
    (toValue (d.withCrate (.ofName x))).code.replace x p.code =
      (toValue (d.withCrate p)).code := by
  simp [toValue, code_item, code_stmt, code_expr, expressions, pieces, h.replace_valueType,
    h.name_ne, h.own]

theorem replace_formatting {trait : String} {stmts : List Stmt} {result : Expr} (htrait : trait ≠ x)
    (hstmts : (Stmt.codeAll stmts).replace x p.code = Stmt.codeAll stmts)
    (hresult : result.code.replace x p.code = result.code) :
    (formatting (d.withCrate (.ofName x)) trait stmts result).code.replace x p.code =
      (formatting (d.withCrate p) trait stmts result).code := by
  simp [formatting, formatResult, code_item, code_expr, pieces, htrait, hstmts, hresult, h.name_ne,
    h.own]

theorem replace_defaultTrait :
    (defaultTrait (d.withCrate (.ofName x))).code.replace x p.code =
      (defaultTrait (d.withCrate p)).code := by
  simp [defaultTrait, code_item, code_stmt, code_expr, expressions, pieces, h.name_ne, h.own]

theorem replace_identifierTrait :
    (identifierTrait (d.withCrate (.ofName x))).code.replace x p.code =
      (identifierTrait (d.withCrate p)).code := by
  simp [identifierTrait, code_item, code_stmt, code_expr, expressions, pieces, h.replace_valueType,
    h.name_ne, h.own]

theorem replace_coreTraits :
    (Generated.Item.codeAll (coreTraits (d.withCrate (.ofName x)))).replace x p.code =
      Generated.Item.codeAll (coreTraits (d.withCrate p)) := by
  simp [coreTraits, Generated.Item.codeAll, h.replace_defaultTrait, h.replace_identifierTrait]

theorem replace_ownMembers {fs fs' : List Function}
    (hfs : Code.replace (fs.flatMap Function.code) x p.code = fs'.flatMap Function.code) :
    (Implementation.code { trait := none, target := typeName (d.withCrate (.ofName x)),
                           members := fs.map .function }).replace x p.code =
      Implementation.code { trait := none, target := typeName (d.withCrate p),
                            members := fs'.map .function } := by
  have hmembers (fs : List Function) :
      (fs.map Generated.Member.function).flatMap Member.code = fs.flatMap Function.code :=
    List.flatMap_map ..
  simp [Implementation.code, pieces, hmembers, hfs, h.name_ne, h.own]

end Declaration.Lacks

end TypedIds
