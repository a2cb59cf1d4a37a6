import TypedIds.Proofs.Generated.Parts

/-!
# Identifiers that may reject values

If the hook of an identifier yields a result, its constructor does too, and everything that goes
through the constructor has to know of it.  Each part of the code asks on its own whether there is
a hook and whether it may fail, so it is to be shown that the answers fit together.

* `Generated.AllPlain` — what has no part in it: no early return, and no calls of own functions but
  of those that every identifier has.
* `Generated.Scalar.sited_items` — all nodes of a scalar identifier are plain, but for those of the
  constructor and the two shortcuts for the empty value.
* `Generated.Scalar.Coherent` — what all parts say of the hook.
* **`Declaration.Accepted.coherent`**: the code of an accepted scalar declaration is coherent.
-/

set_option autoImplicit false

namespace TypedIds

variable {x : Index} {s : Struct} {d : Declaration}

/-- The identifier has a hook, and what it yields is a result. -/
def Declaration.HookYieldsResult (d : Declaration) : Prop :=
  ∃ h, d.hook = some h ∧ (h.returns = .resultValue ∨ h.returns = .resultUnit)

theorem Declaration.isFallible_iff : d.isFallible = true ↔ d.HookYieldsResult := by
  rw [isFallible, Option.any_eq_true]
  refine exists_congr fun h ↦ and_congr_right fun _ ↦ ?_
  cases h.returns <;> simp [HookReturn.isFallible]

namespace Generated

/-! ## Plain nodes -/

/-- The own functions that every identifier has. -/
def commonNames : List String := ["new", "unspecified", "is_unspecified"]

/-- A node that would be the same with another hook: it is no early return, and calls none of the
identifier's own functions but those that every identifier has. -/
def Node.IsPlain (type : String) : Node → Prop
  | .expr (.call callee _) => ∀ f, ownName? type callee = some f → f ∈ commonNames
  | .stmt (.returnIf _ _) => False
  | _ => True

/-- All of the nodes are plain. -/
def AllPlain (type : String) (ns : List (Site × Node)) : Prop := ∀ p ∈ ns, p.2.IsPlain type

section Plain

variable {type : String} {ns ms : List (Site × Node)}

theorem Node.IsPlain.earlyReturn?_eq_none {n : Node} (h : n.IsPlain type) :
    n.earlyReturn? = none := by
  cases n with
  | expr e => rfl
  | stmt s =>
    cases s with
    | returnIf condition result => exact h.elim
    | _ => rfl

theorem Node.IsPlain.mem_commonNames {f : String} {n : Node} (h : n.IsPlain type)
    (hf : n.ownCallee? type = some f) : f ∈ commonNames := by
  cases n with
  | expr e =>
    cases e with
    | call callee args => exact h f hf
    | _ => cases hf
  | stmt s => cases hf

theorem AllPlain.append (hn : AllPlain type ns) (hm : AllPlain type ms) :
    AllPlain type (ns ++ ms) :=
  List.forall_mem_append.mpr ⟨hn, hm⟩

theorem AllPlain.earlyReturn (h : AllPlain type ns) : foundAmong Node.earlyReturn? ns = [] :=
  List.filterMap_eq_nil_iff.mpr fun p hp ↦ by rw [(h p hp).earlyReturn?_eq_none, Option.map_none]

theorem AllPlain.ownCallee (h : AllPlain type ns) :
    ∀ p ∈ foundAmong (Node.ownCallee? type) ns, p.2 ∈ commonNames := by
  intro p hp
  obtain ⟨n, hn, hp⟩ := List.mem_filterMap.mp hp
  obtain ⟨f, hf, rfl⟩ := Option.map_eq_some_iff.mp hp
  exact (h n hn).mem_commonNames hf

end Plain

namespace Scalar

/-! ## The nodes of a scalar identifier -/

/-- Where the constructor is. -/
def newSite (d : Declaration) : Site := ⟨typeName d, none, "new"⟩

/-- Where values are converted if no hook may reject them. -/
def fromSite (d : Declaration) : Site := ⟨typeName d, some (fromTrait (valueType d)), "from"⟩

/-- Where the library converts values. -/
def trySite (d : Declaration) : Site :=
  ⟨typeName d, some (libraryTrait d "ScalarIdentifier" none), "try_from_value"⟩

/-- The early return of a member for the empty value, which there is without a hook. -/
def shortcut (d : Declaration) (site : Site) (result : Expr) : List (Site × Node) :=
  if d.hook.isSome then [] else [(site, .stmt (.returnIf (isEmpty d) result))]

/-- The own functions but the constructor. -/
theorem plain_functions : AllPlain d.name
    ((members d).tail.flatMap fun f ↦ f.nodes.map (⟨typeName d, none, f.name⟩, ·)) := by
  have hinit : ∀ n ∈ (unspecifiedInit d [empty d] (empty d)).nodes, n.IsPlain d.name := by
    rw [unspecifiedInit]
    split <;> simp [Expr.ownCall, empty, valueCall, Node.IsPlain, commonNames]
  have hcell : ownName? d.name (within (library d ["__private", "OnceCell"]) ["new"]) = none :=
    ownName?_of_length _ (by simp [library, within, absolute, Code.op, Code.ofMarks])
  simpa [AllPlain, members, unspecified, isUnspecified, accessor, Function.nodes, Expr.wrapped,
    Expr.var, Expr.ownCall, Node.IsPlain, commonNames, hcell, or_imp, forall_and] using hinit

/-- The conversions into the value, and all formatting. -/
def views (d : Declaration) : List Implementation :=
  [toValue d, asRef d (valueType d), asRef d (word "str"), formatAs d "Display", debugFormat d,
    formatAs d "LowerHex", formatAs d "UpperHex"]

theorem plain_views : ∀ i ∈ views d, AllPlain d.name (Item.implementation i).sited := by
  have hto : AllPlain d.name (Item.implementation (toValue d)).sited := by
    simp [AllPlain, Item.sited, Member.sited, toValue, Function.nodes, Expr.var, Node.IsPlain]
  have href : ∀ type, AllPlain d.name (Item.implementation (asRef d type)).sited := by
    simp [AllPlain, Item.sited, Member.sited, asRef, Function.nodes, Expr.wrapped, Expr.var,
      Node.IsPlain]
  have hformat : ∀ trait, AllPlain d.name (Item.implementation (formatAs d trait)).sited := by
    simp [AllPlain, Item.sited, Member.sited, formatAs, formatting, formatValue, Function.nodes,
      Expr.wrapped, Expr.var, Node.IsPlain, or_imp, forall_and]
  have hdebug : AllPlain d.name (Item.implementation (debugFormat d)).sited := by
    simp [AllPlain, Item.sited, Member.sited, debugFormat, formatting, Function.nodes, typeLabel,
      Expr.wrapped, Expr.var, Node.IsPlain, or_imp, forall_and]
  simp [views, hto, href, hformat, hdebug]

theorem plain_fromText : AllPlain d.name (Item.implementation (fromText d)).sited := by
  rw [fromText]
  split <;>
    simp [AllPlain, Item.sited, Member.sited, Function.nodes, ownedText, tryFromValue, Expr.var,
      Node.IsPlain, or_imp, forall_and]

theorem plain_coreTraits : AllPlain d.name ((coreTraits d).flatMap Item.sited) := by
  simp [AllPlain, coreTraits, Item.sited, Member.sited, defaultTrait, identifierTrait, Expr.clone,
    Function.nodes, Expr.wrapped, Expr.var, Node.IsPlain, typeLabel, commonNames, or_imp,
    forall_and]

/-- The conversions from a text. -/
theorem plain_converter (converter : String) : AllPlain d.name
    ([.implementation (fromStr d converter), .definition (converterDefinition d converter),
      .implementation (converterMembers d converter)].flatMap Item.sited) := by
  have hparse : ownName? d.name (within (errorType d) ["parse"]) = none :=
    ownName?_of_length _ (by simp [errorType, library, within, absolute, Code.op, Code.ofMarks])
  simp [AllPlain, Item.sited, Member.sited, fromStr, converterMembers, parsed, valueCall,
    Function.nodes, typeLabel, Expr.var, Node.IsPlain, hparse, or_imp, forall_and]

/-- All conversions but that from the value, and all formatting. -/
theorem plain_rest : AllPlain d.name
    ((((conversions d).tail ++ formats d).map .implementation).flatMap Item.sited) := by
  have hsub : ∀ i ∈ (conversions d).tail ++ formats d, i ∈ fromText d :: views d := by
    cases hk : d.kind <;> simp [conversions, formats, views, hk]
  have hall : ∀ i ∈ fromText d :: views d, AllPlain d.name (Item.implementation i).sited :=
    List.forall_mem_cons.mpr ⟨plain_fromText, plain_views⟩
  intro p hp
  rw [List.flatMap_map] at hp
  obtain ⟨i, hi, hp⟩ := List.mem_flatMap.mp hp
  exact hall i (hsub i hi) p hp

/-- In a member that has the shortcut, all else is plain. -/
theorem sited_emptyShortcut (site : Site) {result : Expr → Expr} {e : Expr}
    (hresult : ∀ n ∈ (result unspecifiedCopy).nodes, n.IsPlain d.name)
    (he : ∀ n ∈ e.nodes, n.IsPlain d.name) :
    ∃ ns, (Stmt.nodesAll (emptyShortcut d result) ++ e.nodes).map (site, ·) =
      shortcut d site (result unspecifiedCopy) ++ ns ∧ AllPlain d.name ns := by
  have hempty : ∀ n ∈ (isEmpty d).nodes, n.IsPlain d.name := by
    simp [isEmpty, valueCall, Expr.var, Node.IsPlain]
  rw [emptyShortcut, shortcut]
  split
  · exact ⟨e.nodes.map (site, ·), by simp, List.forall_mem_map.mpr he⟩
  · refine ⟨((isEmpty d).nodes ++ (result unspecifiedCopy).nodes ++ e.nodes).map (site, ·),
      by simp, List.forall_mem_map.mpr ?_⟩
    exact List.forall_mem_append.mpr ⟨List.forall_mem_append.mpr ⟨hempty, hresult⟩, he⟩

/-- A conversion that a hook may fail has no shortcut, since there is a hook. -/
theorem sited_fromValue : ∃ ns, (Item.implementation (fromValue d)).sited =
    shortcut d (fromSite d) unspecifiedCopy ++ ns ∧ AllPlain d.name ns := by
  rw [fromValue]
  split
  next hf =>
    have hsome : d.hook.isSome = true := by
      obtain ⟨h, hd, -⟩ := Declaration.isFallible_iff.mp hf
      rw [hd]
      rfl
    refine ⟨_, by rw [shortcut, if_pos hsome, List.nil_append], ?_⟩
    simp [AllPlain, Item.sited, Member.sited, Function.nodes, tryFromValue, Expr.var, Node.IsPlain]
  next =>
    have hcopy : ∀ n ∈ (id unspecifiedCopy).nodes, n.IsPlain d.name := by
      simp [unspecifiedCopy, Expr.ownCall, Expr.clone, Node.IsPlain, commonNames]
    have hnew : ∀ n ∈ (Expr.ownCall "new" [.var "value"]).nodes, n.IsPlain d.name := by
      simp [Expr.ownCall, Expr.var, Node.IsPlain, commonNames]
    obtain ⟨ns, hns, hplain⟩ := sited_emptyShortcut (fromSite d) hcopy hnew
    exact ⟨ns, by simpa [Item.sited, Member.sited, Function.nodes, fromSite] using hns, hplain⟩

theorem sited_scalarTrait (converter : String) :
    ∃ ns, (Item.implementation (scalarTrait d converter)).sited =
      shortcut d (trySite d) (.ok unspecifiedCopy) ++ ns ∧ AllPlain d.name ns := by
  have hcopy : ∀ n ∈ (Expr.ok unspecifiedCopy).nodes, n.IsPlain d.name := by
    simp [unspecifiedCopy, Expr.ok, Expr.ownCall, Expr.clone, Node.IsPlain, commonNames]
  have htry : ∀ n ∈ (tryNew d [.var "value"]).nodes, n.IsPlain d.name := by
    rw [tryNew]
    split <;> simp [Expr.ok, Expr.ownCall, Expr.var, Node.IsPlain, commonNames]
  obtain ⟨ns, hns, hplain⟩ := sited_emptyShortcut (trySite d) hcopy htry
  have hsited : (Item.implementation (scalarTrait d converter)).sited =
      (Stmt.nodesAll (emptyShortcut d .ok) ++ (tryNew d [.var "value"]).nodes).map (trySite d, ·) ++
        Expr.wrapped.nodes.map ({ trySite d with member := "into_value" }, ·) := by
    simp [Item.sited, Member.sited, scalarTrait, Function.nodes, trySite]
  refine ⟨ns ++ Expr.wrapped.nodes.map ({ trySite d with member := "into_value" }, ·), ?_,
    hplain.append (List.forall_mem_map.mpr ?_)⟩
  · rw [hsited, hns, List.append_assoc]
  · simp [Expr.wrapped, Expr.var, Node.IsPlain]

/-- All nodes of a scalar identifier are plain, but for those of the constructor and the two
shortcuts. -/
theorem sited_items (converter : String) :
    ∃ ns₁ ns₂ ns₃, (items d converter).flatMap Item.sited =
      (new d).nodes.map (newSite d, ·) ++ ns₁ ++ shortcut d (fromSite d) unspecifiedCopy ++ ns₂ ++
        shortcut d (trySite d) (.ok unspecifiedCopy) ++ ns₃ ∧
      AllPlain d.name ns₁ ∧ AllPlain d.name ns₂ ∧ AllPlain d.name ns₃ := by
  obtain ⟨fs, hfrom, hfs⟩ := sited_fromValue (d := d)
  obtain ⟨ts, htry, hts⟩ := sited_scalarTrait (d := d) converter
  have hmembers : (Item.implementation ⟨none, none, typeName d, (members d).map .function⟩).sited =
      (new d).nodes.map (newSite d, ·) ++
        (members d).tail.flatMap fun f ↦ f.nodes.map (⟨typeName d, none, f.name⟩, ·) := by
    simp [Item.sited, members, Member.sited, newSite, name_new]
  have hconversions : conversions d = fromValue d :: (conversions d).tail := rfl
  refine ⟨_, fs ++ _, ts ++ _, ?_, plain_functions,
    hfs.append (plain_rest.append plain_coreTraits), hts.append (plain_converter converter)⟩
  rw [items, hconversions]
  simp only [List.flatMap_append, List.flatMap_cons, List.cons_append, List.map_cons,
    List.append_assoc, List.map_append, List.flatMap_nil, List.append_nil, hfrom, htry, hmembers]
  simp [Item.sited]

/-! ## What the hook decides -/

/-- Without a hook the two conversions from the value return early, and nothing else does. -/
theorem earlyReturn_items (converter : String) :
    found Node.earlyReturn? (items d converter) =
      if d.hook.isSome then []
      else [(fromSite d, isEmpty d, unspecifiedCopy),
        (trySite d, isEmpty d, .ok unspecifiedCopy)] := by
  obtain ⟨ns₁, ns₂, ns₃, hsited, h₁, h₂, h₃⟩ := sited_items (d := d) converter
  have hnew : foundAmong Node.earlyReturn? ((new d).nodes.map (newSite d, ·)) = [] := by
    rw [foundAmong_map, earlyReturn_new, List.map_nil]
  rw [found, hsited]
  simp only [foundAmong_append, hnew, h₁.earlyReturn, h₂.earlyReturn, h₃.earlyReturn,
    List.append_nil, List.nil_append, shortcut]
  split <;> rfl

/-- The constructor calls the hook; all other calls of own functions are of those that every
identifier has. -/
theorem ownCallee_items (converter : String) :
    ∃ others, found (Node.ownCallee? d.name) (items d converter) =
        (d.hook.map fun h ↦ (newSite d, h.name)).toList ++ others ∧
      ∀ p ∈ others, p.2 ∈ commonNames := by
  obtain ⟨ns₁, ns₂, ns₃, hsited, h₁, h₂, h₃⟩ := sited_items (d := d) converter
  have hnew : foundAmong (Node.ownCallee? d.name) ((new d).nodes.map (newSite d, ·)) =
      (d.hook.map fun h ↦ (newSite d, h.name)).toList := by
    rw [foundAmong_map, ownCallee_new]
    cases d.hook <;> rfl
  have hshortcut : ∀ site result,
      foundAmong (Node.ownCallee? d.name) (shortcut d site result) = [] := by
    intro site result
    rw [shortcut]
    split <;> rfl
  refine ⟨foundAmong (Node.ownCallee? d.name) (ns₁ ++ ns₂ ++ ns₃), ?_,
    ((h₁.append h₂).append h₃).ownCallee⟩
  rw [found, hsited]
  simp only [foundAmong_append, hnew, hshortcut, List.nil_append, List.append_assoc]

/-- The types that are converted to the identifier: that of the value, and borrowed texts if it is
one. -/
def inputTypes (d : Declaration) : List Code :=
  valueType d :: if d.kind = .string then [borrowedText] else []

/-- The trait of a conversion to the identifier. -/
def inputTrait (d : Declaration) (type : Code) : Trait :=
  if d.isFallible then tryFromTrait type else fromTrait type

/-- All conversions may fail, or none may. -/
theorem conversion?_items (converter : String) :
    (items d converter).filterMap Item.conversion? =
      (inputTypes d).map (fun t ↦ (typeName d, inputTrait d t)) ++
        [(d.valueType, fromTrait (typeName d))] := by
  have hvalue : Item.conversion? (.implementation (fromValue d)) =
      some (typeName d, inputTrait d (valueType d)) := by
    rw [fromValue, inputTrait]
    split <;> rfl
  have htext : Item.conversion? (.implementation (fromText d)) =
      some (typeName d, inputTrait d borrowedText) := by
    rw [fromText, inputTrait]
    split <;> rfl
  have hto : Item.conversion? (.implementation (toValue d)) =
      some (d.valueType, fromTrait (typeName d)) := rfl
  have href : ∀ t, Item.conversion? (.implementation (asRef d t)) = none := fun _ ↦ rfl
  have hconversions : ((conversions d).map .implementation).filterMap Item.conversion? =
      (inputTypes d).map (fun t ↦ (typeName d, inputTrait d t)) ++
        [(d.valueType, fromTrait (typeName d))] := by
    rw [conversions, inputTypes]
    split <;> simp [hvalue, htext, hto, href]
  have hformats : ((formats d).map .implementation).filterMap Item.conversion? = [] := by
    rw [formats]
    split <;> rfl
  have hcore : (coreTraits d).filterMap Item.conversion? = [] := rfl
  have hconverter : [.implementation (scalarTrait d converter),
      .implementation (fromStr d converter), .definition (converterDefinition d converter),
      .implementation (converterMembers d converter)].filterMap Item.conversion? = [] := rfl
  simp only [items, List.map_append, List.filterMap_append, hconversions, hformats, hcore,
    hconverter, List.append_nil, List.filterMap_cons, List.cons_append]
  rfl

/-! ## Coherence -/

/-- All parts of the code agree on what the hook may do, given the constructor and the function that
yields the unspecified identifier. -/
structure Coherent (d : Declaration) (is : List Item) (new unspecified : Function) : Prop where
  /-- The constructor is declared to yield a result, or the identifier. -/
  output : (new.output = some (resultType selfType (errorType d)) ↔ d.HookYieldsResult) ∧
    (new.output = some selfType ↔ ¬d.HookYieldsResult)
  /-- It yields the struct inside of `Ok`, or the struct. -/
  result : (new.result = .ok (.construct selfType none) ↔ d.HookYieldsResult) ∧
    (new.result = .construct selfType none ↔ ¬d.HookYieldsResult)
  /-- It propagates the error of the hook as a rejection, or nothing. -/
  propagated :
    ((∃ h args, d.hook = some h ∧
        new.nodes.filterMap Node.propagated? = [rejection d (.ownCall h.name args)]) ↔
      d.HookYieldsResult) ∧
    (new.nodes.filterMap Node.propagated? = [] ↔ ¬d.HookYieldsResult)
  /-- The conversions to the identifier may all fail, or none of them.  The only other conversion is
  that back to the value. -/
  conversions :
    (is.filterMap Item.conversion? =
        (inputTypes d).map (fun t ↦ (typeName d, tryFromTrait t)) ++
          [(d.valueType, fromTrait (typeName d))] ↔ d.HookYieldsResult) ∧
    (is.filterMap Item.conversion? =
        (inputTypes d).map (fun t ↦ (typeName d, fromTrait t)) ++
          [(d.valueType, fromTrait (typeName d))] ↔ ¬d.HookYieldsResult)
  /-- The unspecified identifier wraps the empty value itself if that is rejected, or it comes of
  the constructor anyway. -/
  fallback :
    (unspecified.result = once (.call (absolute ["core", "result", "Result", "unwrap_or_else"])
        [.ownCall "new" [empty d],
          .closure (word "_") (.construct (typeName d) (some (empty d)))]) ↔
      d.HookYieldsResult) ∧
    (unspecified.result = once (.ownCall "new" [empty d]) ↔ ¬d.HookYieldsResult)
  /-- Without a hook both conversions from the value have the shortcut for the empty value, and
  otherwise nothing returns early. -/
  shortcut :
    (found Node.earlyReturn? is =
        [(fromSite d, isEmpty d, unspecifiedCopy), (trySite d, isEmpty d, .ok unspecifiedCopy)] ↔
      d.hook = none) ∧
    (found Node.earlyReturn? is = [] ↔ d.hook ≠ none)
  /-- A hook that has not the name of a member is called once, in the constructor. -/
  hook : ∀ h, d.hook = some h → unraw h.name ∉ d.memberNames.map unraw →
    (found (Node.ownCallee? d.name) is).filter (fun p ↦ unraw p.2 == unraw h.name) =
      [(newSite d, h.name)]

/-- Of two different things, it is the first exactly under the condition, and the second exactly
without it. -/
theorem eq_iff_of_eq_ite {α : Type} {b : Bool} {P : Prop} {y a a' : α} (hb : b = true ↔ P)
    (hy : y = if b then a else a') (hne : a ≠ a') : (y = a ↔ P) ∧ (y = a' ↔ ¬P) := by
  rw [← hb, hy]
  cases b <;> simp [hne, hne.symm]

/-- The own functions that every identifier has are members of it. -/
theorem commonNames_subset (hk : d.kind.isScalar = true) : commonNames ⊆ d.memberNames := by
  rw [Declaration.memberNames_scalar hk, commonNames]
  exact List.subset_append_left _ [d.scalar.name]

/-- The function that yields the unspecified identifier. -/
def singleton (d : Declaration) : Function :=
  unspecified d
    [" The canonical unspecified identifier: the empty value, checked",
     " by the hook on first use."] [empty d] (empty d)

theorem coherent_items (hk : d.kind.isScalar = true) (converter : String) :
    Coherent d (items d converter) (new d) (singleton d) := by
  have hiff := Declaration.isFallible_iff (d := d)
  obtain ⟨docs, params, before, hnew, -⟩ := exists_new_eq (d := d)
  refine {
    output := ?output, result := ?result, propagated := ?propagated, conversions := ?conversions
    fallback := ?fallback, shortcut := ?shortcut, hook := ?hook }
  case output =>
    refine eq_iff_of_eq_ite hiff ?_
      (by simp [resultType, selfType, absolute, word, Code.op, Code.ofMarks])
    rw [hnew, constructor, constructorOutput]
    split <;> rfl
  case result =>
    refine eq_iff_of_eq_ite hiff ?_ (by simp [Expr.ok])
    rw [hnew, constructor, constructed]
  case propagated =>
    have hpropagated := propagated_new (d := d)
    rw [← hiff]
    cases hf : d.isFallible with
    | true =>
      rw [hf, if_pos rfl] at hpropagated
      obtain ⟨h, args, hd, heq⟩ := hpropagated
      exact ⟨iff_of_true ⟨h, args, hd, heq⟩ rfl, by simp [heq]⟩
    | false =>
      rw [hf, if_neg Bool.false_ne_true] at hpropagated
      simp [hpropagated]
  case conversions =>
    refine eq_iff_of_eq_ite hiff ?_ (by simp [inputTypes, tryFromTrait, fromTrait, Trait.coreOf])
    rw [conversion?_items]
    cases hf : d.isFallible <;> simp [inputTrait, hf]
  case fallback =>
    refine eq_iff_of_eq_ite hiff ?_
      (by simp [once, Expr.ownCall, absolute, within, selfType, word, Code.op, Code.ofMarks])
    simp only [singleton, unspecified, unspecifiedInit, once]
    split <;> rfl
  case shortcut =>
    rw [earlyReturn_items]
    cases d.hook <;> simp
  case hook =>
    intro h hd hapart
    obtain ⟨others, hfound, hothers⟩ := ownCallee_items (d := d) converter
    have hnone : others.filter (fun p ↦ unraw p.2 == unraw h.name) = [] := by
      refine List.filter_eq_nil_iff.mpr fun p hp heq ↦ hapart ?_
      rw [← eq_of_beq heq]
      exact List.mem_map_of_mem (commonNames_subset hk (hothers p hp))
    rw [hfound, hd, List.filter_append, hnone]
    simp

end Scalar

end Generated

namespace Declaration

variable {is : List Generated.Item}

theorem exists_converter (hk : d.kind.isScalar = true) (hi : d.items = .ok is) :
    ∃ converter, is = Generated.Scalar.items d converter := by
  rw [items, if_pos hk] at hi
  cases hc : converterName d.name with
  | error n =>
    rw [hc] at hi
    cases hi
  | ok converter =>
    rw [hc] at hi
    cases hi
    exact ⟨converter, rfl⟩

/-- **All parts of a scalar identifier agree on what its hook may do.**  The constructor may fail
exactly if the hook yields a result.  Then it wraps the struct into `Ok` and returns an error of the
hook as a rejection, all conversions to the identifier may fail, and if the empty value is rejected
the unspecified identifier wraps it anyway.  Otherwise none of this is so.  Empty values are cut
short exactly without a hook, and a hook is called in one place. -/
theorem Accepted.coherent (h : Accepted x s d) (hk : d.kind.isScalar = true)
    (hi : d.items = .ok is) :
    ∃ new unspecified, Generated.IsOwn is "new" new ∧
      Generated.IsOwn is "unspecified" unspecified ∧
        Generated.Scalar.Coherent d is new unspecified := by
  have hmembers : ∀ f ∈ Generated.Scalar.members d, f ∈ d.ownMembers := by
    rw [ownMembers, if_pos hk]
    exact fun _ hf ↦ hf
  have hnew := h.isOwn hi (hmembers (Generated.Scalar.new d) (.head _))
  have hsingleton := h.isOwn hi (hmembers (Generated.Scalar.singleton d) (.tail _ (.head _)))
  rw [Generated.Scalar.name_new] at hnew
  refine ⟨_, _, hnew, hsingleton, ?_⟩
  obtain ⟨converter, rfl⟩ := exists_converter hk hi
  exact Generated.Scalar.coherent_items hk converter

/-- A text identifier that names its hook, and a UUID without one. -/
def hookedModule : String :=
  "mod m \x7b #[string_id(check = \"normalize\")] pub struct Sku; #[guid_id] struct Plain; \x7d"

theorem coherent_hookedModule :
    ∃ item head items c d is,
      Tree.read hookedModule = .ok item ∧ moduleToExpand [] item = .ok (head, items) ∧
        c ∈ Item.candidatesAll [] items ∧ c.declaration? (.ofItems items) = .ok (.ok (some d)) ∧
          d.kind.isScalar = true ∧ d.items = .ok is ∧ d.hook = some ⟨"normalize", .resultValue⟩ ∧
            ∃ new unspecified, Generated.IsOwn is "new" new ∧
              Generated.IsOwn is "unspecified" unspecified ∧
                Generated.Scalar.Coherent d is new unspecified := by
  have h : declares hookedModule (fun _ d ↦ d.items.toOption.any fun _ ↦
      d.kind.isScalar && d.hook == some ⟨"normalize", .resultValue⟩) = true := by
    decide +kernel
  obtain ⟨item, head, items, c, d, hitem, hmodule, hc, hd, h⟩ := exists_of_declares h
  obtain ⟨is, his, h⟩ := exists_of_any_toOption h
  obtain ⟨hk, hhook⟩ := Bool.and_eq_true_iff.mp h
  exact ⟨item, head, items, c, d, is, hitem, hmodule, hc, hd, hk, his, eq_of_beq hhook,
    Accepted.coherent (.candidate hmodule hc hd) hk his⟩

end Declaration

end TypedIds
