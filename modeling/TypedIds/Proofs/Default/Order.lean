import TypedIds.Generated.Combined
import TypedIds.Proofs.Default.Parentheses
import TypedIds.Proofs.Module.Reordered

/-!
# Unspecified values do not depend on an order

Neither the order in which a module tree declares things nor the order in which its index is gone
through is told by what the tree means, so the unspecified value of a component should not hang on
it.  It could in one place: the types of one name, in different modules, are asked one after the
other how their empty value is named, and the first that knows decides.

Types of one name agree (`Item.EmptyValuesAgree`) if it never is that one of them has a constant
`EMPTY` and another one, without that constant, has a function `empty()`.

* `Index.Lists.emptyValuesAgree_iff` — this is so in a tree exactly if no name has conflicts in its
  index.
* **`ComponentDefault.inferAll_any_order`**: then the same is inferred, or the same problem found,
  for all trees that hold the same in another order, and in whatever order their indexes are gone
  through.  Without it this fails: for a name that has conflicts, two orders of the same index lead
  to different code.
-/

set_option autoImplicit false

namespace TypedIds

namespace Item

/-- The types of this name in the modules at a path have a constant that is their empty value. -/
def HasEmptyConstant (items : List Item) (path : List String) (name : String) : Prop :=
  Declares items path name (.constant "EMPTY")

/-- The types of this name in the modules at a path have a function that yields their empty
value. -/
def HasEmptyFunction (items : List Item) (path : List String) (name : String) : Prop :=
  ∃ f : Method, Declares items path name (.method f) ∧ f.signature.name = "empty" ∧
    f.signature.params = []

/-- If a type has a constant that is its empty value, all types of its name in other modules that
have such a function have such a constant, too. -/
def EmptyValuesAgree (items : List Item) : Prop :=
  ∀ name path path', path ≠ path' → HasEmptyConstant items path name →
    HasEmptyFunction items path' name → HasEmptyConstant items path' name

namespace ReorderedAll

variable {items items' : List Item}

theorem hasEmptyConstant_iff (h : ReorderedAll items items') {path : List String} {name : String} :
    HasEmptyConstant items path name ↔ HasEmptyConstant items' path name :=
  h.declares_iff path

theorem hasEmptyFunction_iff (h : ReorderedAll items items') {path : List String} {name : String} :
    HasEmptyFunction items path name ↔ HasEmptyFunction items' path name :=
  exists_congr fun _ ↦ and_congr_left fun _ ↦ h.declares_iff path

theorem emptyValuesAgree (h : ReorderedAll items items') (ha : EmptyValuesAgree items) :
    EmptyValuesAgree items' := by
  intro name path path' hp hc hf
  rw [← h.hasEmptyConstant_iff] at hc ⊢
  rw [← h.hasEmptyFunction_iff] at hf
  exact ha name path path' hp hc hf

end ReorderedAll

end Item

namespace Index

/-! ## What an index says of empty values -/

namespace Lists

variable {x : Index} {items : List Item} {e : IndexedBlock} {name : String}

theorem hasConstant_iff (h : x.Lists items) (he : e ∈ x.entries) :
    e.members.hasConstant "EMPTY" = true ↔ Item.HasEmptyConstant items e.key.path e.key.name := by
  rw [Members.hasConstant, List.contains_iff_mem, h.mem_constants_iff he, Item.HasEmptyConstant]

theorem hasNullary_iff (h : x.Lists items) (he : e ∈ x.entries) :
    e.members.hasNullary "empty" = true ↔ Item.HasEmptyFunction items e.key.path e.key.name := by
  simp only [Members.hasNullary, List.any_eq_true, Bool.and_eq_true, beq_iff_eq,
    List.isEmpty_iff, h.mem_methods_iff he, Item.HasEmptyFunction]

/-- Types of one name agree in a tree exactly if no name has conflicts in its index. -/
theorem emptyValuesAgree_iff (h : x.Lists items) :
    Item.EmptyValuesAgree items ↔ ∀ name, ¬x.Conflicts name := by
  constructor
  · rintro hagree name ⟨a, ha, b, hb, rfl, hname, hp, hc, hf, hno⟩
    rw [h.hasConstant_iff ha] at hc
    rw [h.hasNullary_iff hb, hname] at hf
    rw [← Bool.not_eq_true, h.hasConstant_iff hb, hname] at hno
    exact hno (hagree _ _ _ hp hc hf)
  · intro hno name path path' hp hc hf
    obtain ⟨a, ha, hak⟩ := h.exists_entry_of_declares hc
    obtain ⟨f, hf', hempty⟩ := hf
    obtain ⟨b, hb, hbk⟩ := h.exists_entry_of_declares hf'
    by_contra hconstant
    refine hno name ⟨a, ha, b, hb, by rw [hak], by rw [hbk], by rwa [hak, hbk], ?_, ?_, ?_⟩
    · rwa [h.hasConstant_iff ha, hak]
    · rw [h.hasNullary_iff hb, hbk]
      exact ⟨f, hf', hempty⟩
    · rwa [← Bool.not_eq_true, h.hasConstant_iff hb, hbk]

/-- What the types of a name have in the index is what they have in the tree. -/
theorem exists_membersNamed_iff {p : Members → Prop} {q : List String → Prop}
    (hp : ∀ e ∈ x.entries, e.key.name = name → (p e.members ↔ q e.key.path))
    (hq : ∀ path, q path → ∃ e ∈ x.entries, e.key = ⟨path, name⟩) :
    (∃ m ∈ x.membersNamed name, p m) ↔ ∃ path, q path := by
  constructor
  · rintro ⟨m, hm, hpm⟩
    obtain ⟨e, he, rfl⟩ := List.mem_map.mp hm
    rw [List.mem_filter, beq_iff_eq] at he
    exact ⟨_, (hp e he.1 he.2).mp hpm⟩
  · rintro ⟨path, hpath⟩
    obtain ⟨e, he, hk⟩ := hq path hpath
    have hname : e.key.name = name := by rw [hk]
    refine ⟨e.members, List.mem_map.mpr ⟨e, by simp [he, hname], rfl⟩, (hp e he hname).mpr ?_⟩
    rwa [hk]

theorem exists_hasConstant_iff (h : x.Lists items) :
    (∃ m ∈ x.membersNamed name, m.hasConstant "EMPTY" = true) ↔
      ∃ path, Item.HasEmptyConstant items path name :=
  exists_membersNamed_iff (fun _ he hname ↦ hname ▸ h.hasConstant_iff he)
    fun _ hc ↦ h.exists_entry_of_declares hc

theorem exists_hasNullary_iff (h : x.Lists items) :
    (∃ m ∈ x.membersNamed name, m.hasNullary "empty" = true) ↔
      ∃ path, Item.HasEmptyFunction items path name :=
  exists_membersNamed_iff (fun _ he hname ↦ hname ▸ h.hasNullary_iff he)
    fun _ ⟨_, hf, _⟩ ↦ h.exists_entry_of_declares hf

end Lists

end Index

namespace ComponentDefault

open Index (Distinct)

variable {x y : Index} {name : String}

/-! ## The first that knows -/

/-- How the empty value of a type is named if its name has no conflicts, said without an order. -/
theorem emptyMember?_eq (h : ¬x.Conflicts name) (hd : Distinct x.entries) :
    emptyMember? x name =
      (if ∃ m ∈ x.membersNamed name, m.hasConstant "EMPTY" = true then some .constant
        else if ∃ m ∈ x.membersNamed name, m.hasNullary "empty" = true then some .function
        else none).or (builtIn? name) := by
  rw [emptyMember?, findSome?_ofMembers? fun m hm m' hm' ↦
    Index.hasConstant_of_not_conflicts h hd hm hm']

/-- The type that comes first decides, if it knows. -/
theorem emptyMember?_of_first {ids : List String} {e : IndexedBlock} {es : List IndexedBlock}
    {member : EmptyMember} (hname : e.key.name = name) (h : ofMembers? e.members = some member) :
    emptyMember? ⟨ids, e :: es⟩ name = some member := by
  simp [emptyMember?, Index.membersNamed, hname, h]

theorem ofName_eq_empty {t : Ty} {member : EmptyMember} (ht : t.lastName? = some name)
    (h : emptyMember? x name = some member) : ofName x t = .empty member t := by
  rw [ofName, ht, Option.bind_some, h]

/-- The constant and the function are not the same code. -/
theorem code_empty_ne (crate : Path) (t : Ty) :
    (Generated.defaultExpr crate (.empty .constant t)).code ≠
      (Generated.defaultExpr crate (.empty .function t)).code := by
  intro h
  have hlength := congrArg List.length h
  simp [Generated.defaultExpr, Generated.emptyMember, Generated.Expr.code,
    Generated.Expr.codeList, Generated.within, Generated.absolute, Code.within] at hlength

/-! ## Any order -/

/-- Two orders of the same index lead to different code for all types of this name. -/
def OrderShows (x : Index) (name : String) : Prop :=
  ∃ es es' : List IndexedBlock, es.Perm x.entries ∧ es'.Perm x.entries ∧
    ∀ (t : Ty) (crate : Path), t.lastName? = some name →
      (Generated.defaultExpr crate (ofName { x with entries := es } t)).code ≠
        (Generated.defaultExpr crate (ofName { x with entries := es' } t)).code

/-- The order of an index shows exactly for the names that have conflicts. -/
theorem orderShows_iff (hd : Distinct x.entries) : OrderShows x name ↔ x.Conflicts name := by
  constructor
  · rintro ⟨es, es', hes, hes', hne⟩
    by_contra hno
    have hno' : ¬Index.Conflicts { x with entries := es } name := by
      rintro ⟨a, ha, b, hb, hab⟩
      exact hno ⟨a, hes.mem_iff.mp ha, b, hes.mem_iff.mp hb, hab⟩
    have hd' : Distinct es := (hes.map IndexedBlock.key).nodup_iff.mpr hd
    have hmember : emptyMember? { x with entries := es } name =
        emptyMember? { x with entries := es' } name :=
      emptyMember?_congr hno' hd' fun m ↦
        (((hes.trans hes'.symm).filter _).map _).mem_iff
    refine hne (Path.ofNames false [] name).toTy (Path.ofNames false [] name) rfl ?_
    have hlast : (Path.ofNames false [] name).toTy.lastName? = some name := rfl
    rw [ofName, ofName, hlast, Option.bind_some, Option.bind_some, hmember]
  · rintro ⟨a, ha, b, hb, han, hbn, -, hc, hf, hno⟩
    obtain ⟨front, back, hab⟩ := List.append_of_mem ha
    obtain ⟨front', back', hba⟩ := List.append_of_mem hb
    refine ⟨a :: (front ++ back), b :: (front' ++ back'), ?_, ?_, fun t crate ht ↦ ?_⟩
    · rw [hab]
      exact List.perm_middle.symm
    · rw [hba]
      exact List.perm_middle.symm
    · have hconstant : ofMembers? a.members = some .constant := by simp [ofMembers?, hc]
      have hfunction : ofMembers? b.members = some .function := by simp [ofMembers?, hf, hno]
      rw [ofName_eq_empty ht (emptyMember?_of_first han hconstant),
        ofName_eq_empty ht (emptyMember?_of_first hbn hfunction)]
      exact code_empty_ne crate t

/-- **The order does not matter.**  If types of one name agree in a tree, the same is inferred for
some components, or the same problem is found, with any index of any tree that holds the same in
another order.  Otherwise an order shows: for a name that has conflicts, and for no other, two
orders of the same index lead to different code. -/
theorem inferAll_any_order :
    (∀ {items items' : List Item} {x y : Index}, Item.ReorderedAll items items' →
      Item.EmptyValuesAgree items → x.Lists items → y.Lists items' →
        ∀ cs, inferAll x cs = inferAll y cs) ∧
      ∀ (x : Index) (name : String), Distinct x.entries →
        (OrderShows x name ↔ x.Conflicts name) := by
  refine ⟨fun {items items' x y} h hagree hx hy cs ↦ ?_, fun x name hd ↦ orderShows_iff hd⟩
  refine inferAll_congr fun name _ ↦ ⟨?_, ?_⟩
  · rw [Bool.eq_iff_iff, Index.isIdentifier, Index.isIdentifier, List.contains_iff_mem,
      List.contains_iff_mem, hx.identifiers, hy.identifiers, h.mem_markedAll_iff]
  · have hno : ¬x.Conflicts name := hx.emptyValuesAgree_iff.mp hagree name
    have hno' : ¬y.Conflicts name := hy.emptyValuesAgree_iff.mp (h.emptyValuesAgree hagree) name
    have hconstant : (∃ m ∈ x.membersNamed name, m.hasConstant "EMPTY" = true) ↔
        ∃ m ∈ y.membersNamed name, m.hasConstant "EMPTY" = true := by
      rw [hx.exists_hasConstant_iff, hy.exists_hasConstant_iff]
      exact exists_congr fun path ↦ h.hasEmptyConstant_iff
    have hfunction : (∃ m ∈ x.membersNamed name, m.hasNullary "empty" = true) ↔
        ∃ m ∈ y.membersNamed name, m.hasNullary "empty" = true := by
      rw [hx.exists_hasNullary_iff, hy.exists_hasNullary_iff]
      exact exists_congr fun path ↦ h.hasEmptyFunction_iff
    rw [emptyMember?_eq hno hx.distinct, emptyMember?_eq hno' hy.distinct]
    simp only [hconstant, hfunction]

/-- A block of members of a type `Sku`. -/
def skuMembers (ms : List Member) : Item :=
  .members ⟨false, (Path.ofNames false [] "Sku").toTy, ms, []⟩

/-- A function `empty()`. -/
def emptyMethod : Method :=
  ⟨[], ⟨false, false, false, [], "empty", .none, [], false, none, none, none⟩⟩

/-- Types `Sku` in two modules, both with a constant; that in the inner module has a function,
too. -/
def skuTree : List Item :=
  [skuMembers [.constant "EMPTY"],
   .module ⟨[], "inner", []⟩ [.other [], skuMembers [.constant "EMPTY", .method emptyMethod]]]

/-- The same in another order. -/
def skuTreeReordered : List Item :=
  [.module ⟨[], "inner", []⟩ [skuMembers [.method emptyMethod, .constant "EMPTY"], .other []],
   skuMembers [.constant "EMPTY"]]

/-- Types `Sku` in two modules, one with a constant and one with a function. -/
def skuConflict : List Item :=
  [skuMembers [.constant "EMPTY"],
   .module ⟨[], "inner", []⟩ [skuMembers [.method emptyMethod]]]

/-- A component of the type `Sku`. -/
def skuComponent : Component := ⟨"sku", (Path.ofNames false [] "Sku").toTy, .nowhere, .nowhere⟩

theorem inferAll_any_order_sku :
    Item.ReorderedAll skuTree skuTreeReordered ∧ Item.EmptyValuesAgree skuTree ∧
      inferAll (.ofItems skuTree) [skuComponent] = .ok [.empty .constant skuComponent.ty] ∧
      inferAll (.ofItems skuTreeReordered) [skuComponent] =
        .ok [.empty .constant skuComponent.ty] ∧
      (Index.ofItems skuConflict).Conflicts "Sku" ∧
      OrderShows (.ofItems skuConflict) "Sku" := by
  have hreordered : Item.ReorderedAll skuTree skuTreeReordered := by
    refine .trans (.swap _ _ _) (.cons (.module _ (.trans (.swap _ _ _) ?_)) (.cons (.same _) .nil))
    exact .cons (.members _ [] (.swap _ _ _)) (.cons (.same _) .nil)
  have hagree : Item.EmptyValuesAgree skuTree := by
    rw [(Index.lists_ofItems skuTree).emptyValuesAgree_iff]
    rintro name ⟨a, -, b, hb, -, -, -, -, -, hno⟩
    have hentries : (Index.ofItems skuTree).entries =
        [⟨⟨[], "Sku"⟩, ⟨[], ["EMPTY"]⟩⟩, ⟨⟨["inner"], "Sku"⟩, ⟨[emptyMethod], ["EMPTY"]⟩⟩] := rfl
    rw [hentries] at hb
    obtain rfl | rfl := List.mem_pair.mp hb <;> cases hno
  have hvalues : inferAll (.ofItems skuTree) [skuComponent] =
      .ok [.empty .constant skuComponent.ty] := rfl
  have hconflict : (Index.ofItems skuConflict).Conflicts "Sku" := by
    refine ⟨⟨⟨[], "Sku"⟩, ⟨[], ["EMPTY"]⟩⟩, List.mem_cons_self,
      ⟨⟨["inner"], "Sku"⟩, ⟨[emptyMethod], []⟩⟩, List.mem_cons_of_mem _ List.mem_cons_self,
      rfl, rfl, by simp, rfl, rfl, rfl⟩
  refine ⟨hreordered, hagree, hvalues, ?_, hconflict, ?_⟩
  · rw [← hvalues]
    exact (inferAll_any_order.1 hreordered hagree (Index.lists_ofItems _) (Index.lists_ofItems _)
      _).symm
  · exact (inferAll_any_order.2 _ _ (Index.distinct_ofItems _)).mpr hconflict

end ComponentDefault

end TypedIds
