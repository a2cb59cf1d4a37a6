import TypedIds.Proofs.Module.Blocks
import TypedIds.Proofs.Module.Index

/-!
# What the entries of an index hold

Every entry of an index stands for a type, by the path of a module and a name.  What it holds can be
looked up in the tree: the members in blocks for that name which lie directly in the modules at that
path (`Item.Declares`).

* `Index.Lists.exists_entry_iff` — there is an entry for a type exactly if there is such a block.
* `Index.Lists.mem_methods_iff`, `Index.Lists.mem_constants_iff` — an entry holds the functions and
  the constants that are declared for its type, and no others.

All of this holds whatever order the entries are in.
-/

set_option autoImplicit false

namespace TypedIds

/-- A member is declared for the types of this name in the modules at a path. -/
def Item.Declares (items : List Item) (path : List String) (name : String) (m : Member) : Prop :=
  ∃ b ∈ Item.inherentBlocks path name items, m ∈ b.members

namespace Members

theorem mem_methods_ofList {f : Method} {ms : List Member} :
    f ∈ (ofList ms).methods ↔ .method f ∈ ms := by
  rw [ofList, List.mem_filterMap]
  constructor
  · rintro ⟨m, hm, hf⟩
    cases m with
    | method g =>
      obtain rfl := Option.some.inj hf
      exact hm
    | constant n => cases hf
    | other => cases hf
  · exact fun h ↦ ⟨_, h, rfl⟩

theorem mem_constants_ofList {n : String} {ms : List Member} :
    n ∈ (ofList ms).constants ↔ .constant n ∈ ms := by
  rw [ofList, List.mem_filterMap]
  constructor
  · rintro ⟨m, hm, hn⟩
    cases m with
    | method f => cases hn
    | constant k =>
      obtain rfl := Option.some.inj hn
      exact hm
    | other => cases hn
  · exact fun h ↦ ⟨_, h, rfl⟩

theorem constants_foldl_append (ms : List Members) (m : Members) :
    (ms.foldl append m).constants = m.constants ++ ms.flatMap constants := by
  induction ms generalizing m with
  | nil => simp
  | cons n ms ih => simp [ih, append]

/-- Members that are joined have the functions and the constants of all of them. -/
theorem join?_eq_some {ms : List Members} {m : Members} (h : join? ms = some m) :
    m.methods = ms.flatMap methods ∧ m.constants = ms.flatMap constants := by
  cases ms with
  | nil => cases h
  | cons n ms =>
    obtain rfl := Option.some.inj h
    exact ⟨methods_foldl_append ms n, constants_foldl_append ms n⟩

theorem join?_eq_none_iff {ms : List Members} : join? ms = none ↔ ms = [] := by
  cases ms <;> simp [join?]

end Members

namespace Index.Lists

variable {x : Index} {items : List Item} {e : IndexedBlock}

/-- The members of an entry are those of the blocks for its type. -/
theorem join?_of_mem (h : x.Lists items) (he : e ∈ x.entries) :
    Members.join? ((Item.inherentBlocks e.key.path e.key.name items).map
      (Members.ofList ·.members)) = some e.members := by
  rw [← membersOf?_ofItems, ← h.membersOf?]
  exact (membersOf?_eq_some_iff h.distinct).mpr he

/-- There is an entry for a type exactly if there is a block for it. -/
theorem exists_entry_iff (h : x.Lists items) {k : TypeKey} :
    (∃ e ∈ x.entries, e.key = k) ↔ Item.inherentBlocks k.path k.name items ≠ [] := by
  constructor
  · rintro ⟨e, he, rfl⟩ hnil
    have hjoin := h.join?_of_mem he
    rw [hnil] at hjoin
    cases hjoin
  · intro hblocks
    cases hm : x.membersOf? k.path k.name with
    | none =>
      rw [h.membersOf?, membersOf?_ofItems, Members.join?_eq_none_iff, List.map_eq_nil_iff] at hm
      exact absurd hm hblocks
    | some m => exact ⟨_, (membersOf?_eq_some_iff h.distinct).mp hm, rfl⟩

/-- The functions of an entry are those that are declared for its type. -/
theorem mem_methods_iff (h : x.Lists items) (he : e ∈ x.entries) {f : Method} :
    f ∈ e.members.methods ↔ Item.Declares items e.key.path e.key.name (.method f) := by
  rw [(Members.join?_eq_some (h.join?_of_mem he)).1, List.flatMap_map, List.mem_flatMap]
  simp only [Members.mem_methods_ofList, Item.Declares]

/-- The constants of an entry are those that are declared for its type. -/
theorem mem_constants_iff (h : x.Lists items) (he : e ∈ x.entries) {n : String} :
    n ∈ e.members.constants ↔ Item.Declares items e.key.path e.key.name (.constant n) := by
  rw [(Members.join?_eq_some (h.join?_of_mem he)).2, List.flatMap_map, List.mem_flatMap]
  simp only [Members.mem_constants_ofList, Item.Declares]

/-- A type that a member is declared for has an entry. -/
theorem exists_entry_of_declares (h : x.Lists items) {path : List String} {name : String}
    {m : Member} (hm : Item.Declares items path name m) :
    ∃ e ∈ x.entries, e.key = ⟨path, name⟩ := by
  obtain ⟨b, hb, -⟩ := hm
  exact h.exists_entry_iff.mpr (List.ne_nil_of_mem hb)

end Index.Lists

end TypedIds
