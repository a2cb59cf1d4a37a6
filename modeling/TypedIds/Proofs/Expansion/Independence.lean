import TypedIds.Proofs.Expansion.Placement
import TypedIds.Proofs.Marker.Resolution
import TypedIds.Proofs.Marker.Typed
import TypedIds.Proofs.Module.Index

/-!
# What an expansion depends on

A struct is expanded with the index of the whole module tree at hand, but it asks that index few
questions.  This file says which, so two trees that answer them alike lead to the same expansion,
whatever else they hold.

* `Candidate.reading?` is what is read off the struct alone, before the index is asked anything
  (`Candidate.declaration?_eq`).  If the struct has one marker with arguments that can be read
  (`Candidate.Says`), it is these, or the type of a UUID cannot be read and there is nothing
  (`Candidate.reading?_eq_some_iff`, `Candidate.reading?_eq_error_iff`).
* `Candidate.SeesAlike` — the questions: what members are declared for the struct itself, and for
  the last name of each component type that the marker lists, whether it is the name of a marked
  struct and what members the types of that name have.
* **`Candidate.expand_eq_of_seesAlike`**: the struct becomes the same code, or fails with the same
  diagnostic, in both trees.

Nothing is assumed of the other structs of either tree, so it does not matter whether they succeed,
fail, or stop the expansion of the module.
-/

set_option autoImplicit false

namespace TypedIds

/-! ## What is read off the struct -/

/-- The last names of the component types that the marker of a struct lists.  A scalar identifier
lists none. -/
def Candidate.typeNames (c : Candidate) : List String :=
  match c.reading? with
  | .ok (.ok (some (t, m))) =>
    if t.kind.isScalar then [] else m.components.filterMap (·.ty.lastName?)
  | _ => []

/-- The arguments of the marker of a target say what is given. -/
def Target.Says (t : Target) (m : MarkerArgs) : Prop :=
  ∃ args, t.marker.markerArguments = .ok args ∧ MarkerArgs.read t.kind args t.marker.span = .ok m

/-- A struct has one marker, and the arguments of that say what is given. -/
def Candidate.Says (c : Candidate) (t : Target) (m : MarkerArgs) : Prop :=
  c.item.resolve c.path = .ok (some t) ∧ t.Says m

theorem Target.arguments_eq_ok_iff {t : Target} {m : MarkerArgs} :
    t.arguments = .ok (.ok m) ↔ t.Says m ∧ m.IsTyped t.kind := by
  rw [arguments, Says]
  cases t.marker.markerArguments with
  | error d => simp
  | ok args => simp [MarkerArgs.parse_eq_ok_iff]

theorem Target.arguments_eq_error_iff {t : Target} {n : NotAName} :
    t.arguments = .error n ↔
      ∃ m, t.Says m ∧ ¬m.IsTyped t.kind ∧ n = .type (.wanted Grammar.typeStarts false) := by
  simp only [arguments, Says]
  cases t.marker.markerArguments with
  | error d => simp
  | ok args => simp [MarkerArgs.parse_eq_error_iff]

theorem Candidate.reading?_eq_some_iff {c : Candidate} {t : Target} {m : MarkerArgs} :
    c.reading? = .ok (.ok (some (t, m))) ↔ c.Says t m ∧ m.IsTyped t.kind := by
  rw [Says, and_assoc, ← Target.arguments_eq_ok_iff, reading?]
  constructor
  · intro h
    split at h
    next => cases h
    next => cases h
    next t' ht =>
      obtain ⟨r, hr, h⟩ := exists_of_bind_eq_ok h
      cases r <;> cases h
      exact ⟨ht, hr⟩
  · rintro ⟨ht, hm⟩
    rw [ht]
    simp only [hm]
    rfl

theorem Candidate.reading?_eq_error_iff {c : Candidate} {n : NotAName} :
    c.reading? = .error n ↔
      ∃ t m, c.Says t m ∧ ¬m.IsTyped t.kind ∧ n = .type (.wanted Grammar.typeStarts false) := by
  have hresolve : c.reading? = .error n ↔
      ∃ t, c.item.resolve c.path = .ok (some t) ∧ t.arguments = .error n := by
    rw [reading?]
    rcases c.item.resolve c.path with d | _ | t
    · simp
    · simp
    · cases ht : t.arguments <;> simp [bind, Except.bind, pure, Except.pure, ht]
  simp only [hresolve, Target.arguments_eq_error_iff, Says, ← exists_and_left, and_assoc]

/-- A declaration is made of the target that a struct is resolved to. -/
theorem Candidate.declaration?_of_resolve {c : Candidate} {t : Target}
    (h : c.item.resolve c.path = .ok (some t)) (x : Index) :
    c.declaration? x = t.arguments.map fun m ↦
      (m.bind (Declaration.ofMarked t.kind t.item · x t.path)).map some := by
  rw [declaration?_eq, reading?, h]
  dsimp only
  rcases t.arguments with n | d | m <;> rfl

/-- A declaration is made of what the marker of a struct says. -/
theorem Candidate.declaration?_eq_some_iff {c : Candidate} {x : Index} {d : Declaration} :
    c.declaration? x = .ok (.ok (some d)) ↔
      ∃ t m, (c.Says t m ∧ m.IsTyped t.kind) ∧
        Declaration.ofMarked t.kind t.item m x t.path = .ok d := by
  simp only [← reading?_eq_some_iff, declaration?_eq]
  rcases c.reading? with n | e | _ | ⟨t, m⟩
  · simp
  · simp
  · simp
  · cases hd : Declaration.ofMarked t.kind t.item m x t.path <;> simp [Except.map, hd]

/-- A struct that is resolved keeps its name and its place. -/
theorem Candidate.Says.name_path {c : Candidate} {t : Target} {m : MarkerArgs} (h : c.Says t m) :
    t.item.name = c.item.name ∧ t.path = c.path := by
  obtain ⟨-, hitem, hpath⟩ := Struct.resolve_eq_some h.1
  rw [hitem]
  exact ⟨rfl, hpath⟩

/-! ## What is read of a marker alone -/

section

variable {kind : MarkerKind} {args item : List Tree} {s : Struct} {i : Item} {span : Span}
  {d : Declaration} {n : NotAName}

theorem markedItem_of_markers_eq_nil (h : s.markers = []) :
    markedItem kind args (.struct s) span = (MarkerArgs.parse kind args .nowhere).map fun m ↦
      m.bind (Declaration.ofMarked kind s · .empty []) := by
  have hnone : s.attributes.find? (·.isMarker) = none :=
    List.find?_eq_none.mpr fun a ha ↦ by simp [Struct.markers_eq_nil_iff.mp h a ha]
  simp only [markedItem, hnone]
  cases MarkerArgs.parse kind args .nowhere <;> rfl

theorem exists_markedItem_eq_report (h : s.markers ≠ []) (kind : MarkerKind) (args : List Tree)
    (span : Span) : ∃ e, markedItem kind args (.struct s) span = .ok (.error e) := by
  cases hfind : s.attributes.find? (·.isMarker) with
  | some a => exact ⟨⟨.otherMarker kind, a.span⟩, by simp only [markedItem, hfind]⟩
  | none => exact absurd (Struct.markers_eq_nil_iff.mpr (by simpa using hfind)) h

/-- A marker alone makes a declaration of a struct that has no marker. -/
theorem markedItem_eq_ok_iff :
    markedItem kind args i span = .ok (.ok d) ↔
      ∃ s m, i = .struct s ∧ s.markers = [] ∧
        (MarkerArgs.read kind args .nowhere = .ok m ∧ m.IsTyped kind) ∧
          Declaration.ofMarked kind s m .empty [] = .ok d := by
  simp only [← MarkerArgs.parse_eq_ok_iff]
  cases i with
  | struct s =>
    by_cases hs : s.markers = []
    · rw [markedItem_of_markers_eq_nil hs]
      rcases MarkerArgs.parse kind args .nowhere with n | e | m <;>
        simp [Except.map, Except.bind, hs]
    · obtain ⟨e, he⟩ := exists_markedItem_eq_report hs kind args span
      simp [he, hs]
  | module head items => simp [markedItem]
  | members b => simp [markedItem]
  | other code => simp [markedItem]

/-- It stops at a struct that has no marker, where its arguments are read. -/
theorem markedItem_eq_error_iff :
    markedItem kind args i span = .error n ↔
      ∃ s, i = .struct s ∧ s.markers = [] ∧ MarkerArgs.parse kind args .nowhere = .error n := by
  cases i with
  | struct s =>
    by_cases hs : s.markers = []
    · rw [markedItem_of_markers_eq_nil hs]
      rcases MarkerArgs.parse kind args .nowhere with n | e | m <;> simp [Except.map, hs]
    · obtain ⟨e, he⟩ := exists_markedItem_eq_report hs kind args span
      simp [he, hs]
  | module head items => simp [markedItem]
  | members b => simp [markedItem]
  | other code => simp [markedItem]

theorem markedDeclaration_eq_ok_iff :
    markedDeclaration kind args item = .ok (.ok d) ↔
      ∃ s, Grammar.item.run .nowhere item = .ok (.struct s) ∧
        markedItem kind args (.struct s) (Tree.spanAll item) = .ok (.ok d) := by
  rw [markedDeclaration]
  cases Grammar.item.run .nowhere item with
  | error e => simp
  | ok i =>
    cases i <;> simp [markedItem]

theorem markedDeclaration_eq_error_iff :
    markedDeclaration kind args item = .error n ↔
      ∃ s, Grammar.item.run .nowhere item = .ok (.struct s) ∧
        markedItem kind args (.struct s) (Tree.spanAll item) = .error n := by
  rw [markedDeclaration]
  cases Grammar.item.run .nowhere item with
  | error e => simp
  | ok i => cases i <;> simp [markedItem]

end

/-! ## What the index is asked -/

/-- A hook is looked for among the members of the struct only. -/
theorem Hook.detect_congr {x y : Index} {path : List String} {name : String}
    (h : x.membersOf? path name = y.membersOf? path name) (kind : MarkerKind)
    (cs : List Component) (explicit : Option String) :
    detect x path name kind cs explicit = detect y path name kind cs explicit := by
  cases explicit with
  | none => rw [detect, detect, h]
  | some f => rfl

theorem Declaration.ofMarked_congr {x y : Index} {kind : MarkerKind} {s : Struct} {m : MarkerArgs}
    {path : List String} (hook : x.membersOf? path s.name = y.membersOf? path s.name)
    (hinfer : kind.isScalar = false →
      ComponentDefault.inferAll x m.components = ComponentDefault.inferAll y m.components) :
    ofMarked kind s m x path = ofMarked kind s m y path := by
  rw [ofMarked, ofMarked, Hook.detect_congr hook]
  cases hk : kind.isScalar with
  | true => rfl
  | false => rw [hinfer hk]

/-- A declaration is that of the kind and the struct it is made of. -/
theorem Declaration.kind_item_of_ofMarked {kind : MarkerKind} {s : Struct} {m : MarkerArgs}
    {x : Index} {path : List String} {d : Declaration} (h : ofMarked kind s m x path = .ok d) :
    d.kind = kind ∧ d.item = s ∧ Validity.check kind s m = .ok () := by
  rw [ofMarked] at h
  obtain ⟨_, hcheck, h⟩ := exists_of_bind_eq_ok h
  dsimp only at h
  split at h <;>
  · obtain ⟨_, -, h⟩ := exists_of_bind_eq_ok h
    cases h
    exact ⟨rfl, rfl, hcheck⟩

/-- Two indexes answer alike what the expansion of a struct asks of them. -/
structure Candidate.SeesAlike (c : Candidate) (x y : Index) : Prop where
  /-- The members that are declared for the struct itself. -/
  own : x.membersOf? c.path c.item.name = y.membersOf? c.path c.item.name
  /-- Whether a component type is named like a marked struct. -/
  identifiers : ∀ name ∈ c.typeNames, x.isIdentifier name = y.isIdentifier name
  /-- The members of the types that are named like a component type. -/
  members : ∀ name ∈ c.typeNames, ∀ m, m ∈ x.membersNamed name ↔ m ∈ y.membersNamed name
  /-- Which of these types comes first does not matter. -/
  unambiguous : ∀ name ∈ c.typeNames, x.Unambiguous name

variable {x y : Index} {c : Candidate}

theorem Candidate.SeesAlike.declaration? (h : c.SeesAlike x y) (hd : Index.Distinct x.entries) :
    c.declaration? x = c.declaration? y := by
  rw [declaration?_eq, declaration?_eq]
  rcases hr : c.reading? with n | d | _ | ⟨t, m⟩
  · rfl
  · rfl
  · rfl
  · obtain ⟨hname, hpath⟩ := (reading?_eq_some_iff.mp hr).1.name_path
    refine congrArg (Except.ok ∘ Except.map some) (Declaration.ofMarked_congr ?_ fun hk ↦ ?_)
    · rw [hname, hpath]
      exact h.own
    · have hnames : m.components.filterMap (·.ty.lastName?) = c.typeNames := by
        rw [typeNames, hr]
        simp [hk]
      refine ComponentDefault.inferAll_congr fun name hn ↦ ?_
      rw [hnames] at hn
      exact ⟨h.identifiers name hn,
        ComponentDefault.emptyMember?_congr (h.unambiguous name hn).not_conflicts hd
          (h.members name hn)⟩

/-- The answers of an index are told by the items, whatever the order of its entries. -/
theorem Candidate.SeesAlike.of_lists {items items' : List Item} (hx : x.Lists items)
    (hy : y.Lists items') (h : c.SeesAlike (.ofItems items) (.ofItems items')) :
    c.SeesAlike x y where
  own := by rw [hx.membersOf?, hy.membersOf?, h.own]
  identifiers name hn := by rw [hx.isIdentifier, hy.isIdentifier, h.identifiers name hn]
  members name hn m := by
    rw [hx.mem_membersNamed_iff, hy.mem_membersNamed_iff, h.members name hn]
  unambiguous name hn a ha b hb :=
    h.unambiguous name hn a (hx.entries.mem_iff.mp ha) b (hx.entries.mem_iff.mp hb)

/-! ## The expansion -/

/-- What an expansion yields is told by the declaration and by what keeps units from being
written. -/
theorem Candidate.map_fst_expand (c : Candidate) (x : Index) (us : Units) :
    (c.expand x us).map Prod.fst =
      match c.declaration? x with
      | .error n => .error n
      | .ok (.ok none) => .ok .unmarked
      | .ok (.error d) => .ok (.failed d)
      | .ok (.ok (some d)) =>
        (d.unit c.path).map fun u ↦
          match us.obstacle? u with
          | some o => .failed ⟨Units.problem u o, .nowhere⟩
          | none => .code u.code := by
  rw [expand_eq]
  rcases c.declaration? x with n | e | _ | d
  · rfl
  · rfl
  · rfl
  · dsimp only
    cases d.unit c.path with
    | error n => rfl
    | ok u =>
      simp only [Except.map]
      cases us.obstacle? u <;> rfl

/-- **Declarations do not interfere.**  A struct that lies in two module trees becomes the same code
or fails with the same diagnostic in both, if they agree on the members of the struct itself, and
for the last name of each of its component types on whether a marked struct has that name and on the
members of the types of that name.  The order in which either index is gone through, the other
structs, and the units that have been written for them do not matter. -/
theorem Candidate.expand_eq_of_seesAlike {items items' : List Item} {us us' : Units}
    (hx : x.Lists items) (hy : y.Lists items')
    (h : c.SeesAlike (.ofItems items) (.ofItems items')) (hu : us'.obstacle? = us.obstacle?) :
    (c.expand x us).map Prod.fst = (c.expand y us').map Prod.fst := by
  have hd : c.declaration? x = c.declaration? y := (h.of_lists hx hy).declaration? hx.distinct
  rw [map_fst_expand, map_fst_expand, hd, hu]

/-- A struct that lies outside of modules and has only markers, without a body. -/
def bareCandidate (name : String) (markers : List (MarkerKind × List Tree)) : Candidate where
  item :=
    { attributes := markers.map fun (kind, args) ↦ .marking kind args .nowhere .nowhere .nowhere
      visibility := []
      name
      generics := .none
      predicates := none
      fields := .unit }
  path := []

/-- A combined identifier with a component whose type declares its empty value and one that is an
identifier. -/
def stockKey : Candidate :=
  bareCandidate "StockKey"
    [(.combined, (Tree.read "sku: Sku, order: super::OrderId").toOption.getD [])]

/-- The members of `Sku`, a constant. -/
def skuBlock : Item :=
  .members ⟨false, (Path.ofNames false [] "Sku").toTy, [.constant "EMPTY"], []⟩

/-- The identifier among what its components need. -/
def stockTree : List Item :=
  [.struct stockKey.item, skuBlock, .struct (bareCandidate "OrderId" [(.guid, [])]).item]

/-- The identifier after a module in which a struct has two markers, with members of its own for
another type of its name. -/
def brokenStockTree : List Item :=
  [.module ⟨[.word "mod"], "inner", []⟩
    [.struct (bareCandidate "OrderId" [(.guid, []), (.string, [])]).item,
     .members ⟨false, (Path.ofNames false [] "StockKey").toTy, [.constant "EMPTY"], []⟩],
   skuBlock, .struct stockKey.item]

theorem expand_stockKey :
    stockKey ∈ Item.structsAll [] stockTree ∧ stockKey ∈ Item.structsAll [] brokenStockTree ∧
      stockKey.SeesAlike (.ofItems stockTree) (.ofItems brokenStockTree) ∧
      (stockKey.expand (.ofItems stockTree) .ignored).map Prod.fst =
        (stockKey.expand (.ofItems brokenStockTree) .ignored).map Prod.fst := by
  have hnames : stockKey.typeNames = ["Sku", "OrderId"] := by decide +kernel
  have hentries : (Index.ofItems stockTree).entries = [⟨⟨[], "Sku"⟩, ⟨[], ["EMPTY"]⟩⟩] := rfl
  have hsees : stockKey.SeesAlike (.ofItems stockTree) (.ofItems brokenStockTree) := by
    refine ⟨rfl, ?_, ?_, ?_⟩ <;> rw [hnames] <;> intro name hn
    · obtain rfl | rfl := List.mem_pair.mp hn <;> rfl
    · obtain rfl | rfl := List.mem_pair.mp hn <;> exact fun m ↦ Iff.rfl
    · intro a ha b hb _ _ hp
      rw [hentries, List.mem_singleton] at ha hb
      rw [ha, hb] at hp
      exact absurd rfl hp
  refine ⟨List.mem_cons_self, ?_, hsees, Candidate.expand_eq_of_seesAlike
    (Index.lists_ofItems _) (Index.lists_ofItems _) hsees rfl⟩
  exact List.mem_cons_of_mem _ List.mem_cons_self

end TypedIds
