import Mathlib
import TypedIds.Proofs.Expansion.Independence
import TypedIds.Proofs.Grammar.Item
import TypedIds.Proofs.Marker.Typed

/-!
# The two forms of a marker

A struct can be marked from outside, the arguments of the marker being given beside it, or by an
attribute of its own in a module that is expanded.  The two forms reach the same declaration by
different ways: from outside there is no module around the struct and nothing to look up, while in a
module the marker is found among the attributes and the index knows the struct as an identifier.

* `MarkerArgs.parse_span`, `Declaration.ofMarked_span` — where the marker stands shows in the spans
  of diagnostics only.
* `Declaration.ofMarked_alone` — the index of a module that has only the struct tells nothing,
  unless the struct is named like one of its components' types.
* **`TwoForms.agree`**: both forms yield the same code, or report the same problem.
-/

set_option autoImplicit false

namespace TypedIds

/-! ## Where the marker stands -/

/-- What the arguments of a marker say does not depend on where it stands. -/
theorem MarkerArgs.read_span (kind : MarkerKind) (args : List Tree) (span : Span) :
    read kind args span = (read kind args .nowhere).map fun m ↦ { m with span } := by
  rw [read, read]
  cases Grammar.entries.run .nowhere args with
  | error d => rfl
  | ok e =>
    simp only [bind, Except.bind]
    cases kind.isScalar with
    | false => rfl
    | true => cases e.components <;> rfl

theorem MarkerArgs.parse_span (kind : MarkerKind) (args : List Tree) (span : Span) :
    parse kind args span = (parse kind args .nowhere).map (·.map fun m ↦ { m with span }) := by
  rw [parse, parse, read_span]
  cases read kind args .nowhere with
  | error d => rfl
  | ok m =>
    by_cases hm : m.IsTyped kind
    · have hmoved : IsTyped kind { m with span } := hm
      simp only [Except.map, typed_of_isTyped hm, typed_of_isTyped hmoved]
    · have hmoved : ¬IsTyped kind { m with span } := hm
      simp only [Except.map, typed_of_not_isTyped hm, typed_of_not_isTyped hmoved]

/-- The problems of a declaration do not depend on where the marker stands. -/
theorem Validity.check_span (kind : MarkerKind) (s : Struct) (m : MarkerArgs) (span : Span) :
    (check kind s { m with span }).mapError Diagnostic.problem =
      (check kind s m).mapError Diagnostic.problem := by
  rw [check, check]
  cases checkShape kind s with
  | error d => rfl
  | ok _ =>
    simp only [bind, Except.bind]
    cases checkDerives kind s.name s.attributes with
    | error d => rfl
    | ok _ =>
      -- the span is that of the problem only if the number of components is wrong
      simp only [checkCount]
      generalize (kind = .combined && !(leastComponents ≤ m.components.length &&
        m.components.length ≤ mostComponents) : Bool) = wrong
      cases wrong <;> rfl

theorem Declaration.ofMarked_span (kind : MarkerKind) (s : Struct) (m : MarkerArgs) (x : Index)
    (path : List String) (span : Span) :
    (ofMarked kind s { m with span } x path).mapError Diagnostic.problem =
      (ofMarked kind s m x path).mapError Diagnostic.problem := by
  have hcheck := Validity.check_span kind s m span
  rw [ofMarked, ofMarked]
  rcases h : Validity.check kind s m with d | ⟨⟩
  · rcases h' : Validity.check kind s { m with span } with d' | ⟨⟩
    · rw [h, h'] at hcheck
      exact congrArg Except.error (Except.error.inj hcheck)
    · rw [h, h'] at hcheck
      cases hcheck
  · rcases h' : Validity.check kind s { m with span } with d' | ⟨⟩
    · rw [h, h'] at hcheck
      cases hcheck
    · rfl

/-! ## A struct alone in a module -/

/-- The index of a single struct has its name, if it is marked, and no members. -/
theorem Index.ofItems_struct {s : Struct} (h : s.markers ≠ []) :
    Index.ofItems [.struct s] = ⟨[s.name], []⟩ := by
  have hmarked : s.attributes.any (·.isMarker) = true := by
    by_contra hn
    refine h (Struct.markers_eq_nil_iff.mpr fun a ha ↦ ?_)
    simp only [List.any_eq_true, not_exists, not_and, Bool.not_eq_true] at hn
    exact hn a ha
  simp [Index.ofItems, Item.markedAll, Item.marked, hmarked, Item.blocksAll, Item.blocks]

/-- The name of the struct is all that the index tells of it, so nothing is inferred from the index
if no component is named like that. -/
theorem Declaration.ofMarked_alone {kind : MarkerKind} {s : Struct} {m : MarkerArgs}
    {path : List String}
    (h : kind.isScalar = false → ∀ c ∈ m.components, c.ty.lastName? ≠ some s.name) :
    ofMarked kind s m ⟨[s.name], []⟩ path = ofMarked kind s m .empty path := by
  refine ofMarked_congr rfl fun hk ↦ ComponentDefault.inferAll_congr fun name hn ↦ ⟨?_, rfl⟩
  obtain ⟨c, hc, hname⟩ := List.mem_filterMap.mp hn
  have hne : name ≠ s.name := fun heq ↦ h hk c hc (by rw [hname, heq])
  simp [Index.isIdentifier, Index.empty, hne]

/-! ## The two forms -/

/-- A struct that is marked in two ways: `item` is the struct, which has no marker, and `module` is
a module of nothing but that struct with one more attribute, at any place among those that it has.
The attribute is a marker of this kind with these arguments. -/
structure TwoForms (kind : MarkerKind) (args item module : List Tree) (head : ModuleHead)
    (s : Struct) (front : List Attribute) (marker : Attribute) (back : List Attribute) : Prop where
  item : Grammar.item.run .nowhere item = .ok (.struct s)
  unmarked : s.markers = []
  attributes : s.attributes = front ++ back
  kind : marker.markerKind? = some kind
  args : marker.markerArguments = .ok args
  module : moduleToExpand [] module = .ok (head, [.struct (s.insert front marker back)])

namespace TwoForms

variable {kind : MarkerKind} {args item module : List Tree} {head : ModuleHead} {s : Struct}
  {front back : List Attribute} {marker : Attribute}

/-- The struct in the module. -/
abbrev candidate (s : Struct) (front : List Attribute) (marker : Attribute)
    (back : List Attribute) : Candidate :=
  ⟨s.insert front marker back, []⟩

/-- The declaration that the marker makes of the struct from outside. -/
def outer (kind : MarkerKind) (args : List Tree) (s : Struct) :
    Except NotAName (Except Diagnostic Declaration) :=
  (MarkerArgs.parse kind args .nowhere).map fun m ↦ m.bind (Declaration.ofMarked kind s · .empty [])

/-- What becomes of a declaration, in either form. -/
def result (us : Units) : Except Diagnostic Declaration →
    Except NotAName (Except Diagnostic Code × Units)
  | .error d => .ok (.error d, us)
  | .ok d =>
    match d.unit [] with
    | .error n => .error n
    | .ok u =>
      match us.obstacle? u with
      | some o => .ok (.error ⟨Units.problem u o, .nowhere⟩, us)
      | none => .ok (.ok u.code, us.including u)

theorem expandMarker_eq (h : TwoForms kind args item module head s front marker back)
    (us : Units) : expandMarker kind args item us = outer kind args s >>= result us := by
  have hdeclaration : markedDeclaration kind args item = outer kind args s := by
    rw [markedDeclaration, h.item]
    exact markedItem_of_markers_eq_nil h.unmarked
  rw [TypedIds.expandMarker_eq, hdeclaration]
  rcases outer kind args s with n | d | d <;> rfl

/-- The declaration of a candidate is one that is given, up to the span of a diagnostic. -/
inductive SameDeclaration : Except NotAName (Except Diagnostic (Option Declaration)) →
    Except NotAName (Except Diagnostic Declaration) → Prop
  | stopped (n : NotAName) : SameDeclaration (.error n) (.error n)
  | report {d d' : Diagnostic} (h : d.problem = d'.problem) :
    SameDeclaration (.ok (.error d)) (.ok (.error d'))
  | declared (d : Declaration) : SameDeclaration (.ok (.ok (some d))) (.ok (.ok d))

/-- The declaration is the same in the module. -/
theorem sameDeclaration (h : TwoForms kind args item module head s front marker back)
    (hname : kind.isScalar = false → ∀ m, MarkerArgs.read kind args .nowhere = .ok m →
      ∀ c ∈ m.components, c.ty.lastName? ≠ some s.name) :
    SameDeclaration ((candidate s front marker back).declaration?
      (.ofItems [.struct (s.insert front marker back)])) (outer kind args s) := by
  have hmarked : (s.insert front marker back).markers ≠ [] := by
    rw [Struct.markers_insert h.unmarked h.attributes h.kind]
    exact List.cons_ne_nil _ _
  have hx : Index.ofItems [.struct (s.insert front marker back)] = ⟨[s.name], []⟩ :=
    Index.ofItems_struct hmarked
  rw [Candidate.declaration?_eq, Candidate.reading?,
    Struct.resolve_insert h.unmarked h.attributes h.kind, hx, outer]
  simp only [Target.arguments, h.args, MarkerArgs.parse_span kind args marker.span]
  rcases hm : MarkerArgs.parse kind args .nowhere with n | d | m
  · exact .stopped n
  · exact .report rfl
  · have hspan := Declaration.ofMarked_span kind s m ⟨[s.name], []⟩ [] marker.span
    have hread := (MarkerArgs.parse_eq_ok_iff.mp hm).1
    rw [Declaration.ofMarked_alone fun hk ↦ hname hk m hread] at hspan
    show SameDeclaration
      (.ok ((Declaration.ofMarked kind s { m with span := marker.span }
        ⟨[s.name], []⟩ []).map some))
      (.ok (Declaration.ofMarked kind s m .empty []))
    generalize Declaration.ofMarked kind s { m with span := marker.span } _ _ = inside at hspan ⊢
    generalize Declaration.ofMarked kind s m .empty [] = outside at hspan ⊢
    rcases inside with d | d <;> rcases outside with d' | d'
    · exact .report (Except.error.inj hspan)
    · cases hspan
    · cases hspan
    · obtain rfl := Except.ok.inj hspan
      exact .declared d

/-- The code in the place of the struct, given what becomes of the declaration from outside. -/
def placed (s : Struct) : Except Diagnostic Code → Code
  | .ok code => code
  | .error d => s.code ++ d.errorCode

/-- What replaces the struct in the module is told by the other form. -/
theorem replacement?_eq (h : TwoForms kind args item module head s front marker back)
    (hname : kind.isScalar = false → ∀ m, MarkerArgs.read kind args .nowhere = .ok m →
      ∀ c ∈ m.components, c.ty.lastName? ≠ some s.name) (us : Units) :
    ((candidate s front marker back).expand
        (.ofItems [.struct (s.insert front marker back)]) us).map
        (fun (e, us') ↦ ((candidate s front marker back).replacement? e, us')) =
      (expandMarker kind args item us).map fun (r, us') ↦ (some (placed s r), us') := by
  have hwithout : (s.insert front marker back).withoutMarkers = s :=
    Struct.withoutMarkers_insert h.unmarked h.attributes (Attribute.isMarker_of_markerKind? h.kind)
  rw [h.expandMarker_eq, Candidate.expand_eq]
  have hsame := h.sameDeclaration hname
  generalize (candidate s front marker back).declaration? _ = inside at hsame ⊢
  generalize outer kind args s = outside at hsame ⊢
  cases hsame with
  | stopped n => rfl
  | report hproblem =>
    -- the two diagnostics differ in their span, which the code of a report does not show
    simp only [bind, Except.bind, Except.map, Candidate.replacement?, hwithout, result, placed,
      Diagnostic.errorCode, Diagnostic.message, hproblem]
  | declared d =>
    simp only [bind, Except.bind, result]
    cases d.unit [] with
    | error n => rfl
    | ok u =>
      dsimp only
      cases us.obstacle? u with
      | some o => simp only [Except.map, Candidate.replacement?, hwithout, placed]
      | none => rfl

end TwoForms

/-- A module of a single struct with attributes is that of what replaces it. -/
theorem expandItems_struct {s : Struct} (h : s.attributes.isEmpty = false) (us : Units) :
    expandItems [.struct s] us =
      (Candidate.expand ⟨s, []⟩ (.ofItems [.struct s]) us).map fun (e, us') ↦
        ([(Candidate.replacement? ⟨s, []⟩ e).elim (.struct s) .other], us') := by
  rw [expandItems, Item.candidatesAll, Item.candidates, h]
  simp only [Item.candidatesAll, Bool.false_eq_true, if_false, List.append_nil, expandCandidates]
  rcases Candidate.expand ⟨s, []⟩ (.ofItems [.struct s]) us with n | ⟨e, us'⟩
  · rfl
  · cases hr : Candidate.replacement? ⟨s, []⟩ e <;>
      simp [bind, Except.bind, pure, Except.pure, Except.map, hr, Item.spliceAll, Item.splice,
        Replacements.take?, Replacements.insert]

namespace TwoForms

variable {kind : MarkerKind} {args item module : List Tree} {head : ModuleHead} {s : Struct}
  {front back : List Attribute} {marker : Attribute}

/-- **The module has in the place of the struct what the other form yields**, or the struct and the
diagnostic that the other form reports. -/
theorem expandModule_eq (h : TwoForms kind args item module head s front marker back)
    (hname : kind.isScalar = false → ∀ m, MarkerArgs.read kind args .nowhere = .ok m →
      ∀ c ∈ m.components, c.ty.lastName? ≠ some s.name) (us : Units) :
    expandModule [] module us = (expandMarker kind args item us).map fun (result, us') ↦
      (.ok (Item.module head [.other (placed s result)]).code, us') := by
  have hne : (s.insert front marker back).attributes.isEmpty = false := by
    simp [Struct.insert]
  have hreplacement := h.replacement?_eq hname us
  rw [expandModule, h.module]
  simp only [expandItems_struct hne]
  rcases he : expandMarker kind args item us with n | ⟨r, us₁⟩
  · rw [he] at hreplacement
    rcases hc : (candidate s front marker back).expand
        (.ofItems [.struct (s.insert front marker back)]) us with n' | p
    · rw [hc] at hreplacement
      obtain rfl := Except.error.inj hreplacement
      rfl
    · rw [hc] at hreplacement
      cases hreplacement
  · rw [he] at hreplacement
    rcases hc : (candidate s front marker back).expand
        (.ofItems [.struct (s.insert front marker back)]) us with n' | ⟨e, us'⟩
    · rw [hc] at hreplacement
      cases hreplacement
    · rw [hc] at hreplacement
      obtain ⟨hr, rfl⟩ := Prod.mk.inj (Except.ok.inj hreplacement)
      simp only [bind, Except.bind, pure, Except.pure, Except.map, hr, Option.elim]

end TwoForms

/-! ## Code and reports -/

/-- The code of a definition begins with its attributes and one more. -/
theorem Generated.Definition.exists_code_eq (d : Definition) :
    ∃ rest : Code, d.code = d.attributes ++ .mark '#' false :: rest := by
  rw [Definition.code, deriveCode, mark]
  simp only [List.append_assoc, List.cons_append, List.nil_append]
  exact ⟨_, rfl⟩

/-- The first item that is generated for a declaration is the definition of the struct. -/
theorem Declaration.exists_items_eq {d : Declaration} {items : List Generated.Item}
    (h : d.items = .ok items) : ∃ more, items = .definition (Generated.definition d) :: more := by
  rw [Declaration.items] at h
  split at h
  · rw [converterName] at h
    split at h
    · cases h
    · cases h
      exact ⟨_, rfl⟩
  · cases h
    exact ⟨_, rfl⟩

/-- Generated code begins with the attributes of the struct and one more. -/
theorem Declaration.exists_code_eq {d : Declaration} {code : Code} (h : d.code = .ok code) :
    ∃ rest : Code, code = Attribute.codeAll d.item.attributes ++ .mark '#' false :: rest := by
  rw [Declaration.code] at h
  rcases hi : d.items with n | items
  · rw [hi] at h
    cases h
  · rw [hi] at h
    cases h
    obtain ⟨more, rfl⟩ := exists_items_eq hi
    obtain ⟨rest, hrest⟩ := Generated.Definition.exists_code_eq (Generated.definition d)
    refine ⟨rest ++ Generated.Item.codeAll more, ?_⟩
    rw [Generated.Item.codeAll, List.flatMap_cons, Generated.Item.code, hrest]
    simp [Generated.definition, Generated.Item.codeAll]

/-- Generated code is not a report: where a report has the visibility or the word `struct`, it has
one more attribute. -/
theorem Declaration.code_ne_report {d : Declaration} {code : Code} (h : d.code = .ok code)
    (hv : d.item.visibility.IsVisibility) (e : Diagnostic) :
    code ≠ d.item.code ++ e.errorCode := by
  obtain ⟨rest, rfl⟩ := exists_code_eq h
  intro heq
  rw [Struct.code, List.append_assoc, List.append_assoc, List.append_assoc] at heq
  have htail := List.append_cancel_left heq
  obtain hv | ⟨more, hv⟩ := hv <;> rw [hv] at htail <;> cases htail

namespace TwoForms

variable {kind : MarkerKind} {args item module : List Tree} {head : ModuleHead} {s : Struct}
  {front back : List Attribute} {marker : Attribute}

/-- What the marker yields from outside is code and no report. -/
theorem ne_report (h : TwoForms kind args item module head s front marker back) {us us' : Units}
    {code : Code} (hcode : expandMarker kind args item us = .ok (.ok code, us')) (e : Diagnostic) :
    code ≠ s.code ++ e.errorCode := by
  rw [h.expandMarker_eq] at hcode
  obtain ⟨d | d, ho, hcode⟩ := exists_of_bind_eq_ok hcode
  · cases hcode
  · obtain ⟨m, hof⟩ : ∃ m, Declaration.ofMarked kind s m .empty [] = .ok d := by
      rw [outer] at ho
      rcases hm : MarkerArgs.parse kind args .nowhere with n | d' | m <;> rw [hm] at ho
      · cases ho
      · cases ho
      · exact ⟨m, Except.ok.inj ho⟩
    obtain ⟨-, hitem, -⟩ := Declaration.kind_item_of_ofMarked hof
    rw [result, Declaration.unit] at hcode
    rcases hd : d.code with n | c
    · rw [hd] at hcode
      cases hcode
    · rw [hd] at hcode
      simp only [Except.map] at hcode
      split at hcode
      · cases hcode
      · cases hcode
        rw [← hitem]
        exact Declaration.code_ne_report hd (hitem ▸ Grammar.isVisibility_of_item h.item) e

/-- Two modules with one head and one piece of code each are the same only if the code is. -/
theorem code_inj {c c' : Code}
    (h : (Item.module head [.other c]).code = (Item.module head [.other c']).code) : c = c' := by
  simp only [Item.code, Item.codeAll, Code.within, List.append_nil] at h
  simpa using h

/-- **Both forms of a marker agree**, if the struct is not named like the type of one of its
components.  The marker from outside yields some code exactly if the module becomes itself with that
code in the place of the struct, and the code is no report.  If the marker from outside fails, the
module has in the place of the struct the struct without the marker and a report of the same
message.  If one of the two is stopped, so is the other, by the same word. -/
theorem agree (h : TwoForms kind args item module head s front marker back)
    (hname : kind.isScalar = false → ∀ m, MarkerArgs.read kind args .nowhere = .ok m →
      ∀ c ∈ m.components, c.ty.lastName? ≠ some s.name) (us : Units) :
    (∀ code us', expandMarker kind args item us = .ok (.ok code, us') ↔
        expandModule [] module us = .ok (.ok (Item.module head [.other code]).code, us') ∧
          ∀ d : Diagnostic, code ≠ s.code ++ d.errorCode) ∧
      (∀ d us', expandMarker kind args item us = .ok (.error d, us') →
        expandModule [] module us =
          .ok (.ok (Item.module head [.other (s.code ++ d.errorCode)]).code, us')) ∧
      ∀ n, expandMarker kind args item us = .error n ↔ expandModule [] module us = .error n := by
  have hmodule := h.expandModule_eq hname us
  refine ⟨fun code us' ↦ ⟨fun hc ↦ ?_, fun ⟨hc, hne⟩ ↦ ?_⟩, fun d us' hd ↦ ?_, fun n ↦ ?_⟩
  · rw [hmodule, hc]
    exact ⟨rfl, h.ne_report hc⟩
  · rw [hmodule] at hc
    rcases hr : expandMarker kind args item us with n | ⟨r, us₁⟩
    · rw [hr] at hc
      cases hc
    · rw [hr] at hc
      obtain ⟨hcode, rfl⟩ := Prod.mk.inj (Except.ok.inj hc)
      have hplaced : placed s r = code := code_inj (Except.ok.inj hcode)
      cases r with
      | ok c => rw [← hplaced, placed]
      | error d => exact absurd hplaced.symm (hne d)
  · rw [hmodule, hd]
    rfl
  · rw [hmodule]
    cases expandMarker kind args item us <;> simp [Except.map]

/-! ### A struct with two attributes -/

/-- An attribute that is a name. -/
def nameAttribute (name : String) : Attribute :=
  ⟨Path.ofNames false [] name, .nowhere, .bare, .nowhere,
    .mark '#' false :: Code.within .brackets [.word name]⟩

/-- The trees of an attribute. -/
def attributeTrees (inner : List Tree) : List Tree :=
  [.mark '#' false .nowhere, .group .brackets inner .nowhere]

/-- `x: Sku, y: u8` -/
def keyArgs : List Tree :=
  [.word "x" .nowhere, .mark ':' false .nowhere, .word "Sku" .nowhere, .mark ',' false .nowhere,
   .word "y" .nowhere, .mark ':' false .nowhere, .word "u8" .nowhere]

/-- `pub struct Key;` with two attributes. -/
def keyStruct : Struct where
  attributes := [nameAttribute "a", nameAttribute "b"]
  visibility := [.word "pub"]
  name := "Key"
  generics := .none
  predicates := none
  fields := .unit

/-- The trees of the struct after its attributes. -/
def keyTrees : List Tree :=
  [.word "pub" .nowhere, .word "struct" .nowhere, .word "Key" .nowhere, .mark ';' false .nowhere]

/-- The trees of the struct. -/
def keyItem : List Tree :=
  attributeTrees [.word "a" .nowhere] ++ attributeTrees [.word "b" .nowhere] ++ keyTrees

/-- The trees of a module that has the struct, with the marker between its attributes. -/
def keyModule : List Tree :=
  [.word "mod" .nowhere, .word "m" .nowhere,
   .group .braces (attributeTrees [.word "a" .nowhere] ++
    attributeTrees [.word "combined_id" .nowhere, .group .parens keyArgs .nowhere] ++
    attributeTrees [.word "b" .nowhere] ++ keyTrees) .nowhere]

theorem keyForms :
    TwoForms .combined keyArgs keyItem keyModule ⟨[.word "mod"], "m", []⟩ keyStruct
      [nameAttribute "a"] (.marking .combined keyArgs .nowhere .nowhere .nowhere)
      [nameAttribute "b"] where
  item := by
    obtain ⟨n, hn⟩ := Grammar.exists_nested_eq
    rw [Grammar.item, hn]
    cbv
  unmarked := by decide +kernel
  attributes := rfl
  kind := Attribute.markerKind?_marking ..
  args := rfl
  module := by
    obtain ⟨n, hn⟩ := Grammar.exists_nested_eq
    rw [moduleToExpand, Grammar.module, hn]
    cbv

theorem agree_keyForms :
    (MarkerArgs.read .combined keyArgs .nowhere).isOk ∧
    (∀ code us', expandMarker .combined keyArgs keyItem .ignored = .ok (.ok code, us') ↔
        expandModule [] keyModule .ignored =
            .ok (.ok (Item.module ⟨[.word "mod"], "m", []⟩ [.other code]).code, us') ∧
          ∀ d : Diagnostic, code ≠ keyStruct.code ++ d.errorCode) ∧
      (∀ d us', expandMarker .combined keyArgs keyItem .ignored = .ok (.error d, us') →
        expandModule [] keyModule .ignored =
          .ok (.ok (Item.module ⟨[.word "mod"], "m", []⟩
            [.other (keyStruct.code ++ d.errorCode)]).code, us')) ∧
      ∀ n, expandMarker .combined keyArgs keyItem .ignored = .error n ↔
        expandModule [] keyModule .ignored = .error n := by
  have hread : (MarkerArgs.read .combined keyArgs .nowhere).isOk = true := by decide +kernel
  have hnames : (MarkerArgs.read .combined keyArgs .nowhere).toOption.all (fun m ↦
      m.components.all fun c ↦ c.ty.lastName? ≠ some keyStruct.name) = true := by
    decide +kernel
  have hname : ∀ m, MarkerArgs.read .combined keyArgs .nowhere = .ok m →
      ∀ c ∈ m.components, c.ty.lastName? ≠ some keyStruct.name := by
    intro m hm c hc
    rw [hm] at hnames
    simp only [Except.toOption, Option.all_some, List.all_eq_true, decide_eq_true_eq] at hnames
    exact hnames c hc
  exact ⟨hread, keyForms.agree (fun _ ↦ hname) .ignored⟩

end TwoForms

end TypedIds
