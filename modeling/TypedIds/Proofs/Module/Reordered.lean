import TypedIds.Proofs.Module.Declared

/-!
# Module trees in another order

Two trees hold the same in another order if the items of every module, and the members of every
block, are the same up to their order (`Item.ReorderedAll`).  What a tree declares does not depend
on the order: neither the members of each type (`Item.ReorderedAll.declares_iff`) nor the names of
the marked structs (`Item.ReorderedAll.mem_markedAll_iff`).
-/

set_option autoImplicit false

namespace TypedIds

mutual

/-- The same item, with the items of its modules and the members of its blocks in another order. -/
inductive Item.Reordered : Item → Item → Prop
  | same (i : Item) : Item.Reordered i i
  | module (head : ModuleHead) {items items' : List Item} (h : Item.ReorderedAll items items') :
    Item.Reordered (.module head items) (.module head items')
  /-- The members in another order, and the code that goes with it. -/
  | members (b : MemberBlock) {ms : List Member} (code : Code) (h : b.members.Perm ms) :
    Item.Reordered (.members b) (.members { b with members := ms, code })

/-- The same items, up to the order of these and of what is in them. -/
inductive Item.ReorderedAll : List Item → List Item → Prop
  | nil : Item.ReorderedAll [] []
  | cons {i i' : Item} {is is' : List Item} (h : Item.Reordered i i')
    (hs : Item.ReorderedAll is is') : Item.ReorderedAll (i :: is) (i' :: is')
  | swap (i j : Item) (is : List Item) : Item.ReorderedAll (i :: j :: is) (j :: i :: is)
  | trans {is js ks : List Item} (h : Item.ReorderedAll is js) (h' : Item.ReorderedAll js ks) :
    Item.ReorderedAll is ks

end

namespace Item

variable {path : List String} {name : String} {m : Member}

/-! ## Where members are declared -/

theorem declares_cons (i : Item) (is : List Item) :
    Declares (i :: is) path name m ↔ Declares [i] path name m ∨ Declares is path name m := by
  simp only [Declares, inherentBlocks_cons i is, List.mem_append, or_and_right, exists_or]

/-- What is declared in a module is declared with its name before the path. -/
theorem declares_module {head : ModuleHead} {items : List Item} :
    Declares [.module head items] path name m ↔
      ∃ rest, path = head.name :: rest ∧ Declares items rest name m := by
  cases path with
  | nil => simp [Declares, inherentBlocks, modulesAt, blocksFor, block?]
  | cons n rest =>
    rw [Declares, inherentBlocks_module]
    by_cases hn : head.name = n
    · subst hn
      simp [Declares]
    · simp [hn, Ne.symm hn]

theorem declares_members {b : MemberBlock} :
    Declares [.members b] path name m ↔ path = [] ∧ b.IsFor name ∧ m ∈ b.members := by
  cases path with
  | nil => by_cases hb : b.IsFor name <;> simp [Declares, inherentBlocks_members, hb]
  | cons n rest => simp [Declares, inherentBlocks, modulesAt]

/-! ## What does not depend on the order -/

mutual

theorem Reordered.declares_iff {i i' : Item} (h : Reordered i i') (path : List String) :
    Declares [i] path name m ↔ Declares [i'] path name m := by
  match h with
  | .same i => exact Iff.rfl
  | .module head h =>
    rw [declares_module, declares_module]
    exact exists_congr fun rest ↦ and_congr_right fun _ ↦ h.declares_iff rest
  | .members b code h =>
    rw [declares_members, declares_members]
    exact and_congr_right fun _ ↦ and_congr_right fun _ ↦ h.mem_iff

/-- The same members are declared for every type. -/
theorem ReorderedAll.declares_iff {is is' : List Item} (h : ReorderedAll is is')
    (path : List String) : Declares is path name m ↔ Declares is' path name m := by
  match h with
  | .nil => exact Iff.rfl
  | .cons h hs =>
    rw [declares_cons, h.declares_iff path, hs.declares_iff path, ← declares_cons]
  | .swap i j is =>
    rw [declares_cons i, declares_cons j is, declares_cons j (i :: is), declares_cons i is]
    exact or_left_comm
  | .trans h h' => exact (h.declares_iff path).trans (h'.declares_iff path)

end

mutual

theorem Reordered.mem_marked_iff {i i' : Item} (h : Reordered i i') :
    name ∈ i.marked ↔ name ∈ i'.marked := by
  match h with
  | .same i => exact Iff.rfl
  | .module head h => exact h.mem_markedAll_iff
  | .members b code h => exact Iff.rfl

/-- The same names are those of marked structs. -/
theorem ReorderedAll.mem_markedAll_iff {is is' : List Item} (h : ReorderedAll is is') :
    name ∈ markedAll is ↔ name ∈ markedAll is' := by
  match h with
  | .nil => exact Iff.rfl
  | .cons h hs =>
    rw [markedAll, markedAll, List.mem_append, List.mem_append, h.mem_marked_iff,
      hs.mem_markedAll_iff]
  | .swap i j is =>
    simp only [markedAll, List.mem_append]
    exact or_left_comm
  | .trans h h' => exact h.mem_markedAll_iff.trans h'.mem_markedAll_iff

end

end Item

end TypedIds
