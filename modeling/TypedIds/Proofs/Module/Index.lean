import Mathlib.Data.List.Nodup
import TypedIds.Default

/-!
# Looking things up in an index

Every key stands once in the index of some items, so what is found by a key does not depend on the
order of the entries (`Index.Lists.membersOf?`).  `Index.Lists` leaves that order open: the items do
not tell it, and no result may hang on it.

* `Index.membersOf?_eq_some_iff` — the members found for a key are those of its only entry.
* `ComponentDefault.findSome?_ofMembers?` — the one place where the order could show.  The first of
  several types decides how the empty value is named, and it does not matter which is the first as
  long as no two types of one name do it differently (`Index.Conflicts`; `Index.Unambiguous` asks
  for a little more than that there are none).
-/

set_option autoImplicit false

namespace TypedIds

namespace Index

/-! ## The order of the entries -/

/-- An index of some items, its entries in any order. -/
structure Lists (x : Index) (items : List Item) : Prop where
  identifiers : ∀ name, name ∈ x.identifiers ↔ name ∈ Item.markedAll items
  entries : x.entries.Perm (Index.ofItems items).entries

theorem lists_ofItems (items : List Item) : (Index.ofItems items).Lists items :=
  ⟨fun _ ↦ Iff.rfl, List.Perm.refl _⟩

/-- Every key stands once. -/
def Distinct (es : List IndexedBlock) : Prop := (es.map IndexedBlock.key).Nodup

theorem map_key_insert_of_mem {b : IndexedBlock} {es : List IndexedBlock}
    (h : b.key ∈ es.map IndexedBlock.key) :
    (insert b es).map IndexedBlock.key = es.map IndexedBlock.key := by
  induction es with
  | nil => simp at h
  | cons e es ih =>
    rw [insert]
    by_cases he : e.key = b.key
    · simp [he]
    · have hb : b.key ∈ es.map IndexedBlock.key := by
        simpa [Ne.symm he] using h
      rw [if_neg he, List.map_cons, List.map_cons, ih hb]

theorem map_key_insert_of_not_mem {b : IndexedBlock} {es : List IndexedBlock}
    (h : b.key ∉ es.map IndexedBlock.key) :
    (insert b es).map IndexedBlock.key = es.map IndexedBlock.key ++ [b.key] := by
  induction es with
  | nil => simp [insert]
  | cons e es ih =>
    rw [List.map_cons, List.mem_cons, not_or] at h
    rw [insert, if_neg (Ne.symm h.1), List.map_cons, ih h.2, List.map_cons, List.cons_append]

theorem Distinct.insert {es : List IndexedBlock} (h : Distinct es) (b : IndexedBlock) :
    Distinct (insert b es) := by
  rw [Distinct]
  by_cases hb : b.key ∈ es.map IndexedBlock.key
  · rwa [map_key_insert_of_mem hb]
  · rw [map_key_insert_of_not_mem hb]
    exact List.nodup_append.mpr ⟨h, List.nodup_singleton _, by simpa using hb⟩

theorem distinct_ofItems (items : List Item) : Distinct (Index.ofItems items).entries := by
  have h : ∀ (bs es : List IndexedBlock), Distinct es →
      Distinct (bs.foldl (fun es b ↦ Index.insert b es) es) := by
    intro bs
    induction bs with
    | nil => exact fun es hes ↦ hes
    | cons b bs ih => exact fun es hes ↦ ih _ (hes.insert b)
  exact h _ _ List.nodup_nil

variable {x : Index} {items : List Item} {name : String}

theorem Lists.distinct (h : x.Lists items) : Distinct x.entries :=
  (h.entries.map IndexedBlock.key).nodup_iff.mpr (distinct_ofItems items)

theorem eq_of_key_eq {es : List IndexedBlock} (h : Distinct es) {a b : IndexedBlock} (ha : a ∈ es)
    (hb : b ∈ es) (hk : a.key = b.key) : a = b :=
  List.inj_on_of_nodup_map h ha hb hk

/-- The members that are found are those of the only entry with this key. -/
theorem membersOf?_eq_some_iff (h : Distinct x.entries) {path : List String} {m : Members} :
    x.membersOf? path name = some m ↔ ⟨⟨path, name⟩, m⟩ ∈ x.entries := by
  rw [membersOf?, Option.map_eq_some_iff]
  constructor
  · rintro ⟨e, he, rfl⟩
    have hk : e.key = ⟨path, name⟩ := by simpa using List.find?_some he
    rw [← hk]
    exact List.mem_of_find?_eq_some he
  · intro hm
    cases hf : x.entries.find? (·.key = ⟨path, name⟩) with
    | none =>
      have hk := List.find?_eq_none.mp hf _ hm
      simp at hk
    | some e =>
      have hk : e.key = ⟨path, name⟩ := by simpa using List.find?_some hf
      rw [eq_of_key_eq h (List.mem_of_find?_eq_some hf) hm hk]
      exact ⟨_, rfl, rfl⟩

/-- The members of one type do not depend on the order of the entries. -/
theorem Lists.membersOf? (h : x.Lists items) (path : List String) (name : String) :
    x.membersOf? path name = (Index.ofItems items).membersOf? path name := by
  refine Option.ext fun m ↦ ?_
  rw [membersOf?_eq_some_iff h.distinct, membersOf?_eq_some_iff (distinct_ofItems items),
    h.entries.mem_iff]

theorem Lists.mem_membersNamed_iff (h : x.Lists items) (name : String) (m : Members) :
    m ∈ x.membersNamed name ↔ m ∈ (Index.ofItems items).membersNamed name :=
  ((h.entries.filter _).map _).mem_iff

theorem Lists.isIdentifier (h : x.Lists items) (name : String) :
    x.isIdentifier name = (Index.ofItems items).isIdentifier name := by
  rw [Bool.eq_iff_iff, Index.isIdentifier, Index.isIdentifier, List.contains_iff_mem,
    List.contains_iff_mem]
  exact h.identifiers name

/-! ## Names of empty values -/

/-- No two types of this name, in different modules, have one a constant `EMPTY` and the other a
function `empty()`. -/
def Unambiguous (x : Index) (name : String) : Prop :=
  ∀ a ∈ x.entries, ∀ b ∈ x.entries, a.key.name = name → b.key.name = name →
    a.key.path ≠ b.key.path → a.members.hasConstant "EMPTY" = true →
      b.members.hasNullary "empty" = false

/-- Two types of this name, in different modules, are at odds on how an empty value is named: one
has a constant `EMPTY`, and the other has none, but a function `empty()`. -/
def Conflicts (x : Index) (name : String) : Prop :=
  ∃ a ∈ x.entries, ∃ b ∈ x.entries, a.key.name = name ∧ b.key.name = name ∧
    a.key.path ≠ b.key.path ∧ a.members.hasConstant "EMPTY" = true ∧
      b.members.hasNullary "empty" = true ∧ b.members.hasConstant "EMPTY" = false

theorem Unambiguous.not_conflicts (h : x.Unambiguous name) : ¬x.Conflicts name := by
  rintro ⟨a, ha, b, hb, han, hbn, hp, hc, hn, -⟩
  rw [h a ha b hb han hbn hp hc] at hn
  cases hn

/-- If some type of a name without conflicts has a constant, all that have a function have it
too. -/
theorem hasConstant_of_not_conflicts (h : ¬x.Conflicts name) (hd : Distinct x.entries)
    {m m' : Members} (hm : m ∈ x.membersNamed name) (hm' : m' ∈ x.membersNamed name)
    (hc : m.hasConstant "EMPTY" = true) (hn : m'.hasNullary "empty" = true) :
    m'.hasConstant "EMPTY" = true := by
  rw [membersNamed, List.mem_map] at hm hm'
  obtain ⟨a, ha, rfl⟩ := hm
  obtain ⟨b, hb, rfl⟩ := hm'
  rw [List.mem_filter, beq_iff_eq] at ha hb
  by_cases hp : a.key.path = b.key.path
  · have hk : a.key = b.key := by
      cases hak : a.key; cases hbk : b.key
      simp_all
    rwa [← eq_of_key_eq hd ha.1 hb.1 hk]
  · by_contra hno
    exact h ⟨a, ha.1, b, hb.1, ha.2, hb.2, hp, hc, hn, Bool.eq_false_iff.mpr hno⟩

end Index

namespace ComponentDefault

/-- How the first of some types that does so names its empty value, said without their order. -/
theorem findSome?_ofMembers? {ms : List Members}
    (h : ∀ m ∈ ms, ∀ m' ∈ ms, m.hasConstant "EMPTY" = true → m'.hasNullary "empty" = true →
      m'.hasConstant "EMPTY" = true) :
    ms.findSome? ofMembers? =
      if ∃ m ∈ ms, m.hasConstant "EMPTY" = true then some .constant
      else if ∃ m ∈ ms, m.hasNullary "empty" = true then some .function
      else none := by
  induction ms with
  | nil => simp
  | cons m ms ih =>
    have ih := ih fun a ha b hb ↦ h a (List.mem_cons_of_mem m ha) b (List.mem_cons_of_mem m hb)
    rw [List.findSome?_cons, ofMembers?]
    by_cases hc : m.hasConstant "EMPTY" = true
    · simp [hc]
    · by_cases hn : m.hasNullary "empty" = true
      · -- the function of the first type decides, since no other type has the constant
        have hno : ¬∃ a ∈ m :: ms, a.hasConstant "EMPTY" = true := by
          rintro ⟨a, ha, hac⟩
          exact hc (h a ha m List.mem_cons_self hac hn)
        have hyes : ∃ a ∈ m :: ms, a.hasNullary "empty" = true := ⟨m, List.mem_cons_self, hn⟩
        rw [if_neg hno, if_pos hyes, if_neg hc, if_pos hn]
      · simp [hc, hn, ih]

/-- How the empty value of a type is named does not depend on the order of the entries, nor on the
modules they are in. -/
theorem emptyMember?_congr {x y : Index} {name : String} (hx : ¬x.Conflicts name)
    (hd : Index.Distinct x.entries) (h : ∀ m, m ∈ x.membersNamed name ↔ m ∈ y.membersNamed name) :
    emptyMember? x name = emptyMember? y name := by
  have hx' : ∀ m ∈ x.membersNamed name, ∀ m' ∈ x.membersNamed name,
      m.hasConstant "EMPTY" = true → m'.hasNullary "empty" = true →
        m'.hasConstant "EMPTY" = true :=
    fun m hm m' hm' hc hn ↦ Index.hasConstant_of_not_conflicts hx hd hm hm' hc hn
  have hy' : ∀ m ∈ y.membersNamed name, ∀ m' ∈ y.membersNamed name,
      m.hasConstant "EMPTY" = true → m'.hasNullary "empty" = true →
        m'.hasConstant "EMPTY" = true :=
    fun m hm m' hm' ↦ hx' m ((h m).mpr hm) m' ((h m').mpr hm')
  rw [emptyMember?, emptyMember?, findSome?_ofMembers? hx', findSome?_ofMembers? hy']
  simp only [h]

/-- The unspecified value of a component depends on what the index says of the last name of its
type. -/
theorem infer_congr {x y : Index} {c : Component}
    (h : ∀ name ∈ c.ty.lastName?,
      x.isIdentifier name = y.isIdentifier name ∧ emptyMember? x name = emptyMember? y name) :
    infer x c = infer y c := by
  rw [infer, infer, isIdentifier, isIdentifier]
  cases hn : c.ty.lastName? with
  | none => rfl
  | some name =>
    obtain ⟨hid, hempty⟩ := h name hn
    simp only [Option.any_some, Option.bind_some, hid, hempty]

theorem inferAll_congr {x y : Index} {cs : List Component}
    (h : ∀ name ∈ cs.filterMap (·.ty.lastName?),
      x.isIdentifier name = y.isIdentifier name ∧ emptyMember? x name = emptyMember? y name) :
    inferAll x cs = inferAll y cs := by
  rw [inferAll, inferAll]
  induction cs with
  | nil => rfl
  | cons c cs ih =>
    have hc : infer x c = infer y c := infer_congr fun name hn ↦
      h name (List.mem_filterMap.mpr ⟨c, List.mem_cons_self, hn⟩)
    have hcs := ih fun name hn ↦ h name (by
      obtain ⟨d, hd, hdn⟩ := List.mem_filterMap.mp hn
      exact List.mem_filterMap.mpr ⟨d, List.mem_cons_of_mem c hd, hdn⟩)
    rw [List.mapM_cons, List.mapM_cons, hc, hcs]

end ComponentDefault

end TypedIds
