import TypedIds.Module.Index

/-!
# What lies directly in a module

An index is made in one pass over a module tree that takes the path of the module along, and joins
the blocks for one type as it meets them.  Here the same is said by the tree itself: `modulesAt`
goes down to the modules at a path, and `inherentBlocks` are the blocks in them that hold members of
a type of some name, in source order.

* `Item.blocksAll_filter_key` — the blocks that the pass files under a key are these blocks.  The
  induction is on the items, for every path that the pass has come along.
* `Index.members?_foldl_insert` — joining the blocks one after the other keeps their order.
* **`Index.membersOf?_ofItems`**: the members that are found for a type are those of these blocks.
-/

set_option autoImplicit false

namespace TypedIds

/-! ## The tree -/

/-- The function that a member is. -/
def Member.method? : Member → Option Method
  | .method m => some m
  | _ => none

/-- The block of members that an item is. -/
def Item.block? : Item → Option MemberBlock
  | .members b => some b
  | _ => none

/-- The name that a path without qualifying type ends in. -/
def Ty.pathName? : Ty → Option String
  | .path _ _ last => some last.name
  | _ => none

/-- The items of the modules at a path, in source order.  There may be several such modules, or
none. -/
def Item.modulesAt : (path : List String) → List Item → List (List Item)
  | [], items => [items]
  | n :: path, items => items.flatMap fun
    | .module head inner => if head.name = n then Item.modulesAt path inner else []
    | _ => []

namespace MemberBlock

/-- The functions of a block. -/
def methods (b : MemberBlock) : List Method := b.members.filterMap Member.method?

/-- A block holds members of a type of this name itself, and not those of a trait, as far as the
type that it is written for tells: a path that ends in the name, maybe in parentheses. -/
def IsFor (name : String) (b : MemberBlock) : Prop :=
  b.ofTrait = false ∧ b.selfType.strip.pathName? = some name

instance (name : String) (b : MemberBlock) : Decidable (b.IsFor name) :=
  inferInstanceAs (Decidable (_ ∧ _))

/-- The members of a block as the index keeps them. -/
def indexed (path : List String) (name : String) (b : MemberBlock) : IndexedBlock :=
  ⟨⟨path, name⟩, Members.ofList b.members⟩

end MemberBlock

/-- The blocks for a type of this name that are written directly in these items. -/
def Item.blocksFor (name : String) (items : List Item) : List MemberBlock :=
  (items.filterMap Item.block?).filter (·.IsFor name)

/-- The blocks for a type of this name that are written directly in the modules at a path. -/
def Item.inherentBlocks (path : List String) (name : String) (items : List Item) :
    List MemberBlock :=
  (Item.modulesAt path items).flatMap (Item.blocksFor name)

/-! ## What the pass files under a key -/

theorem Ty.pathName?_strip : ∀ t : Ty, t.strip.pathName? = t.lastName?
  | .paren t => Ty.pathName?_strip t
  | .path .. | .qualified .. | .tuple .. | .reference .. | .array .. | .slice _ | .object ..
  | .other .. => rfl

namespace Item

variable {path : List String} {name : String}

@[simp] theorem inherentBlocks_nil : inherentBlocks path name [] = [] := by
  cases path <;> rfl

theorem inherentBlocks_cons (i : Item) (is : List Item) :
    inherentBlocks path name (i :: is) =
      inherentBlocks path name [i] ++ inherentBlocks path name is := by
  cases path with
  | nil =>
    simp only [inherentBlocks, modulesAt, blocksFor, List.flatMap_singleton, ← List.filter_append,
      ← List.filterMap_append, List.singleton_append]
  | cons n path =>
    simp only [inherentBlocks, modulesAt, List.flatMap_cons, List.flatMap_nil, List.append_nil,
      List.flatMap_append]

/-- What lies in a module lies at a path that begins with its name. -/
theorem inherentBlocks_module {head : ModuleHead} {items : List Item} {n : String}
    {path : List String} :
    inherentBlocks (n :: path) name [.module head items] =
      if head.name = n then inherentBlocks path name items else [] := by
  simp only [inherentBlocks, modulesAt, List.flatMap_singleton]
  split <;> rfl

theorem inherentBlocks_members {b : MemberBlock} :
    inherentBlocks [] name [.members b] = [b].filter (·.IsFor name) :=
  List.append_nil _

/-- A block is for a type if it is written in a module at the path, and for the name. -/
theorem mem_inherentBlocks_iff {b : MemberBlock} {items : List Item} :
    b ∈ inherentBlocks path name items ↔
      ∃ inner ∈ modulesAt path items, .members b ∈ inner ∧ b.IsFor name := by
  have hblock (i : Item) : i.block? = some b ↔ i = .members b := by
    cases i <;> simp [block?]
  simp [inherentBlocks, blocksFor, hblock]

mutual

/-- The pass files what it meets in a module at a path that begins with that of the module. -/
theorem prefix_of_mem_blocks (path : List String) (i : Item) :
    ∀ b ∈ i.blocks path, path <+: b.key.path := by
  match i with
  | .struct s => exact nofun
  | .module head items =>
    intro b hb
    exact (List.prefix_append _ _).trans (prefix_of_mem_blocksAll _ items b hb)
  | .members b =>
    rw [blocks]
    split
    · exact List.forall_mem_singleton.mpr (List.prefix_refl path)
    · exact nofun
  | .other code => exact nofun

theorem prefix_of_mem_blocksAll (path : List String) (items : List Item) :
    ∀ b ∈ blocksAll path items, path <+: b.key.path := by
  match items with
  | [] => exact nofun
  | i :: is =>
    intro b hb
    rw [blocksAll, List.mem_append] at hb
    exact hb.elim (prefix_of_mem_blocks path i b) (prefix_of_mem_blocksAll path is b)

end

/-- Nothing in a module is filed under a path that does not begin with that of the module. -/
theorem filter_blocksAll_eq_nil {before : List String} {k : TypeKey} (items : List Item)
    (h : ¬before <+: k.path) : (blocksAll before items).filter (·.key = k) = [] := by
  rw [List.filter_eq_nil_iff]
  intro b hb hk
  rw [decide_eq_true_eq] at hk
  exact h (hk ▸ prefix_of_mem_blocksAll before items b hb)

theorem blocks_members (before : List String) (b : MemberBlock) :
    (Item.members b).blocks before =
      match b.ofTrait, b.selfType.strip.pathName? with
      | false, some name => [b.indexed before name]
      | _, _ => [] := by
  rw [Ty.pathName?_strip]
  rfl

mutual

/-- What of an item in the module at `before` is filed under a key are the blocks of the item that
lie directly in the module with the rest of the path. -/
theorem blocks_filter_key (before path : List String) (name : String) (i : Item) :
    (i.blocks before).filter (·.key = ⟨before ++ path, name⟩) =
      (inherentBlocks path name [i]).map (·.indexed (before ++ path) name) := by
  match i with
  | .struct s => cases path <;> rfl
  | .other code => cases path <;> rfl
  | .members b =>
    rw [blocks_members]
    cases path with
    | nil =>
      rw [inherentBlocks_members, List.append_nil]
      cases hof : b.ofTrait with
      | true => simp [MemberBlock.IsFor, hof]
      | false =>
        cases hself : b.selfType.strip.pathName? with
        | none => simp [MemberBlock.IsFor, hof, hself]
        | some n =>
          by_cases hn : n = name
          · subst hn
            simp [MemberBlock.IsFor, MemberBlock.indexed, hof, hself]
          · simp [MemberBlock.IsFor, MemberBlock.indexed, hof, hself, hn]
    | cons n path =>
      have hpath : ¬before ++ n :: path = before := by simp
      have hblocks : inherentBlocks (n :: path) name [.members b] = [] := rfl
      rw [hblocks, List.map_nil, List.filter_eq_nil_iff]
      intro e he hk
      split at he
      · rw [List.mem_singleton] at he
        subst he
        exact hpath (congrArg TypeKey.path (of_decide_eq_true hk)).symm
      · cases he
  | .module head items =>
    cases path with
    | nil =>
      have hlonger : ¬before ++ [head.name] <+: before ++ [] := fun h ↦ by
        have hlength := h.length_le
        simp only [List.length_append, List.length_singleton, List.length_nil] at hlength
        omega
      exact filter_blocksAll_eq_nil items hlonger
    | cons n path =>
      rw [inherentBlocks_module]
      split
      next hn =>
        subst hn
        have ih := blocksAll_filter_key (before ++ [head.name]) path name items
        rwa [List.append_assoc, List.singleton_append] at ih
      next hn =>
        have hother : ¬before ++ [head.name] <+: before ++ n :: path := by
          rw [List.prefix_append_right_inj, List.cons_prefix_cons]
          exact fun h ↦ hn h.1
        exact filter_blocksAll_eq_nil items hother

/-- What the pass files under a key are the blocks that lie directly in the module with the rest of
the path, in source order. -/
theorem blocksAll_filter_key (before path : List String) (name : String) (items : List Item) :
    (blocksAll before items).filter (·.key = ⟨before ++ path, name⟩) =
      (inherentBlocks path name items).map (·.indexed (before ++ path) name) := by
  match items with
  | [] => rw [inherentBlocks_nil]; rfl
  | i :: is =>
    rw [blocksAll, List.filter_append, blocks_filter_key before path name i,
      blocksAll_filter_key before path name is, inherentBlocks_cons i is, List.map_append]

end

end Item

/-! ## Joining -/

/-- The members of some blocks together, if there is a block. -/
def Members.join? : List Members → Option Members
  | [] => none
  | m :: ms => some (ms.foldl Members.append m)

theorem Members.methods_foldl_append (ms : List Members) (m : Members) :
    (ms.foldl Members.append m).methods = m.methods ++ ms.flatMap Members.methods := by
  induction ms generalizing m with
  | nil => simp
  | cons n ms ih => simp [ih, Members.append]

namespace Index

/-- The members that some entries have for a key. -/
def members? (k : TypeKey) (es : List IndexedBlock) : Option Members :=
  (es.find? (·.key = k)).map IndexedBlock.members

theorem members?_insert (k : TypeKey) (b : IndexedBlock) (es : List IndexedBlock) :
    members? k (insert b es) =
      if b.key = k then Members.join? ((members? k es).toList ++ [b.members])
      else members? k es := by
  induction es with
  | nil => by_cases hb : b.key = k <;> simp [insert, members?, hb, Members.join?]
  | cons e es ih =>
    rw [insert]
    by_cases he : e.key = b.key
    · by_cases hb : b.key = k
      · simp [members?, he, hb, Members.join?]
      · simp [members?, he, hb]
    · by_cases hek : e.key = k
      · have hbk : ¬b.key = k := fun hbk ↦ he (hek.trans hbk.symm)
        rw [if_neg he, if_neg hbk]
        simp [members?, hek]
      · have hskip : ∀ fs, members? k (e :: fs) = members? k fs := by simp [members?, hek]
        rw [if_neg he, hskip, hskip, ih]

/-- Blocks that are added one after the other are joined in this order. -/
theorem members?_foldl_insert (k : TypeKey) (bs es : List IndexedBlock) :
    members? k (bs.foldl (fun es b ↦ insert b es) es) =
      Members.join? ((members? k es).toList ++
        (bs.filter (·.key = k)).map IndexedBlock.members) := by
  induction bs generalizing es with
  | nil => cases h : members? k es <;> simp [h, Members.join?]
  | cons b bs ih =>
    rw [List.foldl_cons, ih, members?_insert]
    by_cases hb : b.key = k
    · cases members? k es <;> simp [hb, Members.join?]
    · simp [hb]

variable (items : List Item) (path : List String) (name : String)

/-- **What is found for a type lies directly in its module.**  The members for a type are those of
the blocks which are written directly in the modules at its path, for a path that ends in its name,
and which are not those of a trait. -/
theorem membersOf?_ofItems :
    (Index.ofItems items).membersOf? path name =
      Members.join? ((Item.inherentBlocks path name items).map (Members.ofList ·.members)) := by
  have hfold := members?_foldl_insert ⟨path, name⟩ (Item.blocksAll [] items) []
  have hfilter := Item.blocksAll_filter_key [] path name items
  rw [List.nil_append] at hfilter
  rw [hfilter, List.map_map] at hfold
  exact hfold

/-- The functions that are found for a type, in source order. -/
theorem methods_ofItems :
    ((Index.ofItems items).membersOf? path name).elim [] Members.methods =
      (Item.inherentBlocks path name items).flatMap MemberBlock.methods := by
  have hmethods (b : MemberBlock) : (Members.ofList b.members).methods = b.methods := by
    rw [MemberBlock.methods, Members.ofList]
    congr 1
  rw [membersOf?_ofItems]
  cases Item.inherentBlocks path name items with
  | nil => rfl
  | cons b bs =>
    simp only [List.map_cons, Members.join?, Option.elim_some, Members.methods_foldl_append,
      List.flatMap_map, hmethods, List.flatMap_cons]

end Index

end TypedIds
