import TypedIds.Proofs.Generated.Display
import TypedIds.Proofs.Generated.Parts

/-!
# Positions of components

A combined identifier wraps the tuple of its components, in the order in which they are declared.
Parameters, accessors, labels, unspecified values and what is written are lists of their own, so it
is to be shown that each of them has at a position what belongs to the component there.

* `Generated.Wraps` — what a constructor gives to the hook, and what it wraps.
* `Generated.Stmt.Writes` — what a statement writes: a text, or the component at a position.
* `Generated.Combined.Aligned` — what all parts of the code have at a position.
* **`Declaration.Accepted.aligned`**: the code of an accepted combined declaration is aligned.
-/

set_option autoImplicit false

namespace TypedIds

namespace Generated

/-! ## What is wrapped -/

/-- After these statements the variable `value` is this input, or what the hook makes of it.  A hook
that only looks at its argument is given a copy. -/
inductive Wraps (d : Declaration) (input : Expr) : List Stmt → Prop where
  | unchecked (hd : d.hook = none) : Wraps d input [.bind "value" none input]
  | made {h : Hook} (hd : d.hook = some h) (hr : h.returns = .value) :
    Wraps d input [.bind "value" none (.ownCall h.name [input])]
  | madeOrRejected {h : Hook} (hd : d.hook = some h) (hr : h.returns = .resultValue) :
    Wraps d input [.bind "value" none (.propagate (rejection d (.ownCall h.name [input])))]
  | seen {h : Hook} (hd : d.hook = some h) (hr : h.returns = .unit) :
    Wraps d input [.bind "value" none (.block
      [.bind "value" none input, .run (.ownCall h.name [.clone (.borrow (.var "value"))])]
      (.var "value"))]
  | seenOrRejected {h : Hook} (hd : d.hook = some h) (hr : h.returns = .resultUnit) :
    Wraps d input [.bind "value" none (.block
      [.bind "value" none input,
        .run (.propagate (rejection d (.ownCall h.name [.clone (.borrow (.var "value"))])))]
      (.var "value"))]

theorem wraps_checked (d : Declaration) (input : Expr) :
    Wraps d input [.bind "value" none (checked d input)] := by
  rw [checked]
  split
  next hd => exact .unchecked hd
  next h hd =>
    cases hr : h.returns with
    | value => exact .made hd hr
    | unit => exact .seen hd hr
    | resultValue => exact .madeOrRejected hd hr
    | resultUnit => exact .seenOrRejected hd hr

/-! ## What is written -/

/-- What is written for a combined identifier. -/
inductive Write where
  | text (s : String)
  /-- The component at a position, counted from zero. -/
  | part (i : Nat)
  deriving DecidableEq

/-- A statement writes one thing.  The component at a position is blank if it is an `Option` without
a value. -/
inductive Stmt.Writes : Stmt → Write → Prop where
  | text (s : String) :
    Writes (.run (.propagate (.method (.var "f") "write_str" [.text s]))) (.text s)
  /-- The last thing that is written, since its result is that of the function. -/
  | last (s : String) : Writes (.run (.method (.var "f") "write_str" [.text s])) (.text s)
  | part (i : Nat) :
    Writes (.run (.propagate (formatValue "Display" (.borrow (.index .wrapped i))))) (.part i)
  | inside (i : Nat) (name : String) :
    Writes (.ifSome name (.borrow (.index .wrapped i))
      [.run (.propagate (formatValue "Display" (.var name)))]) (.part i)

/-- The arguments of the calls of a method in a chain of calls, in the order in which they are
made. -/
def Expr.chained (name : String) : Expr → List (List Expr)
  | .method receiver n args => receiver.chained name ++ if n = name then [args] else []
  | _ => []

/-- The components from a position on, each after a separator. -/
def separated (start length : Nat) : List Write :=
  (List.range' start length).flatMap fun i ↦ [.text ", ", .part i]

/-- Separators stand between neighbours if one stands before all but the first. -/
theorem intersperse_eq (start length : Nat) :
    ((List.range' start (length + 1)).map Write.part).intersperse (.text ", ") =
      .part start :: separated (start + 1) length := by
  induction length generalizing start with
  | zero => rfl
  | succ n ih =>
    rw [List.range'_succ, List.range'_succ, List.map_cons, List.map_cons,
      List.intersperse_cons_cons, ← List.map_cons, ← List.range'_succ, ih]
    simp [separated, List.range'_succ]

/-! ## Types of values -/

/-- The type of the tuple of some components. -/
def tupleType (cs : List Component) : Code :=
  Code.within .parens (cs.flatMap fun c ↦ c.ty.code ++ mark ',')

/-- The struct that an item defines, with the type of its field. -/
def Item.struct? : Item → Option (String × Option Code)
  | .definition d => some (d.name, d.value)
  | _ => none

/-- The type that a member of an implementation stands for, with its site. -/
def Member.associated? (i : Implementation) : Member → Option (Site × Code)
  | .typeAlias name type => some (⟨i.target, i.trait, name⟩, type)
  | _ => none

/-- The types that members of an item stand for, each with its site. -/
def Item.associated : Item → List (Site × Code)
  | .implementation i => i.members.filterMap (Member.associated? i)
  | _ => []

namespace Combined

theorem writes_writePart (i : Nat) (v : ComponentDefault) : (writePart i v).Writes (.part i) := by
  cases v with
  | null => exact .inside i "part"
  | _ => exact .part i

theorem writes_writeSeparated (vs : List ComponentDefault) (start : Nat) (h : start ≠ 0) :
    List.Forall₂ Stmt.Writes ((vs.zipIdx start).flatMap fun (v, i) ↦ writeSeparated i v)
      (separated start vs.length) := by
  induction vs generalizing start with
  | nil => exact .nil
  | cons v vs ih =>
    have hrest := ih (start + 1) (Nat.succ_ne_zero start)
    simp only [List.zipIdx_cons, List.flatMap_cons, writeSeparated, if_neg h, separated,
      List.length_cons, List.range'_succ, List.cons_append, List.nil_append]
    exact .cons (.text ", ") (.cons (writes_writePart start v) hrest)

/-- The components are written in order, with a separator between neighbours. -/
theorem writes_parts (vs : List ComponentDefault) :
    List.Forall₂ Stmt.Writes (vs.zipIdx.flatMap fun (v, i) ↦ writeSeparated i v)
      (((List.range vs.length).map Write.part).intersperse (.text ", ")) := by
  cases vs with
  | nil => exact .nil
  | cons v vs =>
    rw [List.length_cons, List.range_eq_range', intersperse_eq]
    exact .cons (writes_writePart 0 v) (writes_writeSeparated vs 1 Nat.one_ne_zero)

/-- A chain of calls that label components. -/
theorem chained_foldl (cs : List Component) (start : Nat) (e : Expr) :
    ((cs.zipIdx start).foldl
        (fun e (c, i) ↦ Expr.method e "field" [.text c.name, .borrow (part i)]) e).chained "field" =
      e.chained "field" ++
        (cs.zipIdx start).map fun (c, i) ↦ [.text c.name, .borrow (part i)] := by
  induction cs generalizing start e with
  | nil => simp
  | cons c cs ih => simp [ih, Expr.chained]

/-- Each part of the code has at a position what belongs to the component there. -/
structure Aligned (x : Index) (d : Declaration) (is : List Item) : Prop where
  /-- The constructor takes the components in order, and wraps the tuple of them. -/
  constructor : ∃ new, IsOwn is "new" new ∧
    new.params = d.components.map (fun c ↦ param c.name c.ty.code) ∧
    Wraps d (.tuple (d.components.map fun c ↦ .var c.name)) new.stmts ∧
    new.result =
      (if d.isFallible then .ok (.construct selfType none) else .construct selfType none)
  /-- The accessor of a component borrows what is at its position. -/
  accessor : ∀ (i : Nat) (c : Component), d.components[i]? = some c → ∃ f, IsOwn is c.name f ∧
    f.params = [selfRef] ∧ f.output = some (reference c.ty.code) ∧ f.stmts = [] ∧
    f.result = .borrow (.index .wrapped i)
  /-- The unspecified identifier is made of the values that are inferred for the components, in
  order, and so is what it falls back on. -/
  unspecified : ∃ f es, IsOwn is "unspecified" f ∧
    List.Forall₂ (fun c e ↦ ∃ v, ComponentDefault.infer x c = .ok v ∧
      e = defaultExpr d.options.crate v) d.components es ∧
    f.result = once (
      if d.isFallible then
        .call (absolute ["core", "result", "Result", "unwrap_or_else"])
          [.ownCall "new" es, .closure (word "_") (.construct (typeName d) (some (.tuple es)))]
      else .ownCall "new" es)
  /-- What is at a position has the name of the component as its label. -/
  debug : ∃ e, is.flatMap (Item.stmtsOf "Debug") = [.run e] ∧
    (e.chained "field").length = d.components.length ∧
    ∀ (i : Nat) (c : Component), d.components[i]? = some c →
      (e.chained "field")[i]? = some [.text c.name, .borrow (.index .wrapped i)]
  /-- All positions are written in order between parentheses, with a separator between
  neighbours. -/
  display : List.Forall₂ Stmt.Writes (is.flatMap (Item.stmtsOf "Display"))
    (.text "(" ::
      ((List.range d.components.length).map Write.part).intersperse (.text ", ") ++ [.text ")"])
  /-- The struct holds the tuple. -/
  struct : is.filterMap Item.struct? = [(d.name, some (tupleType d.components))]
  /-- The accessor of the value borrows the tuple. -/
  value : ∃ f, IsOwn is d.options.valueProperty f ∧ f.params = [selfRef] ∧
    f.output = some (reference (tupleType d.components)) ∧ f.stmts = [] ∧
    f.result = .borrow .wrapped
  /-- Taken apart, the identifier is the tuple. -/
  intoParts : ∃ f, IsOwn is "into_parts" f ∧ f.params = [selfParam] ∧
    f.output = some (tupleType d.components) ∧ f.stmts = [] ∧ f.result = .wrapped
  /-- The only conversion is that to the tuple. -/
  conversions :
    is.filterMap Item.conversion? = [(tupleType d.components, fromTrait (typeName d))]
  /-- The library knows the tuple as the value. -/
  associated : is.flatMap Item.associated =
    [(⟨typeName d, some (libraryTrait d "TypedIdentifier" none), "Value"⟩,
      tupleType d.components)]

section

variable {x : Index} {d : Declaration}

/-- The function that yields the unspecified identifier. -/
def singleton (d : Declaration) : Function :=
  unspecified d
    [" The canonical unspecified identifier, built from each",
     " component's empty value on first use."] (defaults d) (.tuple (defaults d))

/-- The accessor of the value. -/
def valueAccessor (d : Declaration) : Function :=
  accessor [" All components, in declaration order."] d.options.valueProperty d.valueType .wrapped

theorem members_eq : members d = [new d, singleton d, isUnspecified] ++ partAccessors d ++
    [valueAccessor d, intoParts d] := rfl

/-- The chain of calls that shows a combined identifier to those who write the program. -/
def debugChain (d : Declaration) : Expr :=
  .method
    (d.components.zipIdx.foldl
      (fun e (c, i) ↦ .method e "field" [.text c.name, .borrow (part i)])
      (.method (.var "f") "debug_struct" [typeLabel d]))
    "finish" []

theorem stmtsOf_debug : (items d).flatMap (Item.stmtsOf "Debug") = [.run (debugChain d)] := by
  simp [items, Item.stmtsOf, demands, toValue, fromTrait, Trait.coreOf, displayFormat,
    debugFormat, debugChain, formatting, Trait.core, coreTraits, defaultTrait, identifierTrait,
    libraryTrait, Member.stmts]

theorem chained_debugChain : (debugChain d).chained "field" =
    d.components.zipIdx.map fun (c, i) ↦ [.text c.name, .borrow (part i)] := by
  simp [debugChain, Expr.chained, chained_foldl, Expr.var]

theorem associated_items : (items d).flatMap Item.associated =
    [(⟨typeName d, some (libraryTrait d "TypedIdentifier" none), "Value"⟩, d.valueType)] := by
  have hown : Item.associated (.implementation
      ⟨none, none, typeName d, (members d).map .function⟩) = [] :=
    List.filterMap_eq_nil_iff.mpr (List.forall_mem_map.mpr fun _ _ ↦ rfl)
  rw [items, List.flatMap_append]
  simp only [List.flatMap_cons, hown]
  rfl

theorem aligned_items (hown : ∀ f ∈ members d, IsOwn (items d) f.name f)
    (hinferred :
      List.Forall₂ (fun c v ↦ ComponentDefault.infer x c = .ok v) d.components d.defaults)
    (hvalue : d.valueType = tupleType d.components) : Aligned x d (items d) := by
  have hnew : new d ∈ members d := by simp [members_eq]
  have hsingleton : singleton d ∈ members d := by simp [members_eq]
  have hvalueAccessor : valueAccessor d ∈ members d := by simp [members_eq]
  have hintoParts : intoParts d ∈ members d := by simp [members_eq]
  refine {
    constructor := ⟨new d, hown _ hnew, rfl, ?wraps, rfl⟩
    accessor := ?accessor
    unspecified := ⟨singleton d, defaults d, hown _ hsingleton, ?inferred, ?init⟩
    debug := ⟨_, stmtsOf_debug, ?labels, ?label⟩
    display := ?display
    struct := hvalue ▸ rfl
    value := ⟨valueAccessor d, hown _ hvalueAccessor, rfl, hvalue ▸ rfl, rfl, rfl⟩
    intoParts := ⟨intoParts d, hown _ hintoParts, rfl, hvalue ▸ rfl, rfl, rfl⟩
    conversions := hvalue ▸ rfl
    associated := hvalue ▸ associated_items }
  case wraps =>
    have hnames : d.components.map (fun c ↦ Expr.var c.name) = d.names.map Expr.var := by
      rw [Declaration.names, List.map_map]
      rfl
    rw [hnames]
    exact wraps_checked d _
  case accessor =>
    intro i c hc
    have hmem : (c, i) ∈ d.components.zipIdx := List.mk_mem_zipIdx_iff_getElem?.mpr hc
    have hpart : accessor [] c.name c.ty.code (part i) ∈ partAccessors d :=
      List.mem_map.mpr ⟨(c, i), hmem, rfl⟩
    have hmember : accessor [] c.name c.ty.code (part i) ∈ members d := by simp [members_eq, hpart]
    exact ⟨_, hown _ hmember, rfl, rfl, rfl, rfl⟩
  case inferred =>
    exact List.forall₂_map_right_iff.mpr (hinferred.imp fun c v hv ↦ ⟨v, hv, rfl⟩)
  case init =>
    rw [singleton, unspecified, once, unspecifiedInit]
  case labels => simp [chained_debugChain]
  case label =>
    intro i c hc
    simp [chained_debugChain, hc, part]
  case display =>
    have htake : d.defaults.zipIdx.take d.components.length = d.defaults.zipIdx :=
      List.take_of_length_le (by simp [hinferred.length_eq])
    rw [stmtsOf_display, htake, hinferred.length_eq]
    exact .cons (.text "(") (List.rel_append (writes_parts d.defaults) (.cons (.last ")") .nil))

end

end Combined

end Generated

namespace Declaration

variable {x : Index} {s : Struct} {d : Declaration}

theorem valueType_of_combined (hk : d.kind = .combined) :
    d.valueType = Generated.tupleType d.components := by
  simp [valueType, hk, MarkerKind.isScalar, Generated.tupleType, types, Code.terminate,
    Generated.mark, List.flatMap_map]

/-- **Positions line up in a combined identifier.**  Its constructor takes the components in order
and gives the tuple of them to the hook and to the struct.  At each position the accessor, the label
and the unspecified value are those of the component there, in the fallback too, and all positions
are written in order.  The type of the value is everywhere that of the tuple. -/
theorem Accepted.aligned (h : Accepted x s d) (hk : d.kind = .combined) :
    ∃ is, d.items = .ok is ∧ Generated.Combined.Aligned x d is := by
  have hscalar : d.kind.isScalar = false := by
    rw [hk]
    rfl
  have hi : d.items = .ok (Generated.Combined.items d) := by simp [items, hscalar]
  have hmembers : d.ownMembers = Generated.Combined.members d := by simp [ownMembers, hscalar]
  exact ⟨_, hi, Generated.Combined.aligned_items (fun f hf ↦ h.isOwn hi (hmembers ▸ hf))
    (h.forall₂_infer hk) (valueType_of_combined hk)⟩

/-- A combined identifier of which the components have one type, with a hook. -/
def rangeModule : String :=
  "mod m \x7b #[combined_id(low: u8, high: u8, check = \"ordered\")] struct Range; \x7d"

theorem aligned_rangeModule :
    ∃ item head items c d,
      Tree.read rangeModule = .ok item ∧ moduleToExpand [] item = .ok (head, items) ∧
        c ∈ Item.candidatesAll [] items ∧ c.declaration? (.ofItems items) = .ok (.ok (some d)) ∧
          d.names = ["low", "high"] ∧ d.kind = .combined ∧
            ∃ is, d.items = .ok is ∧ Generated.Combined.Aligned (.ofItems items) d is := by
  have h : declares rangeModule (fun _ d ↦
      d.names == ["low", "high"] && decide (d.kind = .combined)) = true := by
    decide +kernel
  obtain ⟨item, head, items, c, d, hitem, hmodule, hc, hd, h⟩ := exists_of_declares h
  obtain ⟨hnames, hk⟩ := Bool.and_eq_true_iff.mp h
  have hk : d.kind = .combined := of_decide_eq_true hk
  exact ⟨item, head, items, c, d, hitem, hmodule, hc, hd, eq_of_beq hnames, hk,
    Accepted.aligned (.candidate hmodule hc hd) hk⟩

end Declaration

end TypedIds
