import TypedIds.Proofs.Marker.Partition
import TypedIds.Proofs.Module.Declared

/-!
# The index and the candidates

Two passes go over a module tree: one makes the index, the other collects the candidates.  Each
takes the path of the module along, and each decides by itself which items to look at.  Here both
are compared with the tree.  An item in it has an address, its position in the module it lies in and
those of the modules around it, and `Item.among?` finds the item at an address, with the names of
these modules.  Addresses are ordered as words are in a dictionary (`List.Lex`), and that is source
order, an item before the items in it.

* `Item.positionedAll` — the candidates with their addresses.  It lists each struct that has an
  attribute once (`Item.mem_positionedAll_iff`), in source order (`Item.pairwise_positionedAll`).
* `Item.mem_markedAll_iff` — the marked structs are candidates, those that resolve to something or
  are an error.
* **`Index.ofItems_sees_candidates`**: the identifiers of the index are the names of these
  candidates, and its entries are of modules that exist.
-/

set_option autoImplicit false

namespace TypedIds

/-- Resolving tells of a struct whether one of its attributes is a marker. -/
theorem Struct.resolve_ne_none_iff {s : Struct} {path : List String} :
    s.resolve path ≠ .ok none ↔ s.attributes.any (·.isMarker) = true := by
  simp [resolve_eq_none_iff, Attribute.isMarker, Option.isSome_iff_ne_none]

namespace Item

/-! ## Addresses -/

/-- The item at an address in an item, and the names of the modules on the way to it. -/
def at? : Item → (address : List Nat) → Option (List String × Item)
  | i, [] => some ([], i)
  | .module head items, n :: address =>
    items[n]?.bind fun i ↦ (i.at? address).map (Prod.map (head.name :: ·) id)
  | _, _ :: _ => none

/-- The item at an address among some items, and the names of the modules around it. -/
def among? (items : List Item) : (address : List Nat) → Option (List String × Item)
  | [] => none
  | n :: address => items[n]?.bind (·.at? address)

mutual

/-- The candidates of an item that lies in the module at `path`, with their addresses in it. -/
def positioned (path : List String) : Item → List (List Nat × Candidate)
  | .struct s => if s.attributes.isEmpty then [] else [([], ⟨s, path⟩)]
  | .module head items => positionedAll (path ++ [head.name]) 0 items
  | .members _ => []
  | .other _ => []

/-- The candidates of some items that lie in the module at `path`, the first of them at position
`n`, with their addresses. -/
def positionedAll (path : List String) (n : Nat) : List Item → List (List Nat × Candidate)
  | [] => []
  | i :: is =>
    (i.positioned path).map (Prod.map (n :: ·) id) ++ positionedAll path (n + 1) is

end

mutual

theorem map_snd_positioned (path : List String) (i : Item) :
    (i.positioned path).map Prod.snd = i.candidates path := by
  match i with
  | .struct s =>
    rw [positioned, candidates]
    split <;> rfl
  | .module head items => exact map_snd_positionedAll _ 0 items
  | .members b => rfl
  | .other code => rfl

/-- Without their addresses these are the candidates. -/
theorem map_snd_positionedAll (path : List String) (n : Nat) (is : List Item) :
    (positionedAll path n is).map Prod.snd = candidatesAll path is := by
  match is with
  | [] => rfl
  | i :: is =>
    rw [positionedAll, candidatesAll, List.map_append, List.map_map,
      map_snd_positionedAll path (n + 1) is, ← map_snd_positioned path i]
    rfl

end

/-! ## Structs with an attribute, each once -/

/-- What is found in the module at `path` is a struct with an attribute: this candidate, with the
names of the modules around it. -/
def FindsCandidate (path : List String) (found : Option (List String × Item)) (c : Candidate) :
    Prop :=
  ∃ names, found = some (names, .struct c.item) ∧ c.path = path ++ names ∧ c.item.attributes ≠ []

variable {path : List String} {a : List Nat} {c : Candidate}

@[simp] theorem not_findsCandidate_none : ¬FindsCandidate path none c := by
  simp [FindsCandidate]

theorem findsCandidate_nil {found : Option (List String × Item)} :
    FindsCandidate [] found c ↔
      found = some (c.path, .struct c.item) ∧ c.item.attributes ≠ [] := by
  simp [FindsCandidate]

theorem at?_module_cons {head : ModuleHead} {items : List Item} {n : Nat} :
    (Item.module head items).at? (n :: a) =
      (among? items (n :: a)).map (Prod.map (head.name :: ·) id) := by
  rw [at?, among?]
  cases items[n]? <;> rfl

/-- A candidate in a module is one in its items, with the name of the module in its path. -/
theorem findsCandidate_module {head : ModuleHead} {items : List Item} :
    FindsCandidate path ((Item.module head items).at? a) c ↔
      FindsCandidate (path ++ [head.name]) (among? items a) c := by
  cases a with
  | nil => simp [FindsCandidate, at?, among?]
  | cons n a =>
    rw [at?_module_cons]
    cases among? items (n :: a) with
    | none => simp
    | some found => simp [FindsCandidate, Prod.ext_iff, and_assoc]

theorem findsCandidate_struct {s : Struct} :
    FindsCandidate path ((Item.struct s).at? a) c ↔
      a = [] ∧ c = ⟨s, path⟩ ∧ s.attributes ≠ [] := by
  obtain ⟨item, path'⟩ := c
  cases a with
  | nil =>
    simp only [FindsCandidate, at?, Option.some.injEq, Prod.mk.injEq, struct.injEq, true_and,
      Candidate.mk.injEq]
    constructor
    · rintro ⟨_, ⟨rfl, rfl⟩, rfl, h⟩
      exact ⟨⟨rfl, List.append_nil _⟩, h⟩
    · rintro ⟨⟨rfl, rfl⟩, h⟩
      exact ⟨[], ⟨rfl, rfl⟩, (List.append_nil _).symm, h⟩
  | cons n a => simp [FindsCandidate, at?]

mutual

theorem mem_positioned_iff (path : List String) (i : Item) (a : List Nat) (c : Candidate) :
    (a, c) ∈ i.positioned path ↔ FindsCandidate path (i.at? a) c := by
  match i with
  | .struct s =>
    rw [findsCandidate_struct, positioned]
    cases s.attributes <;> simp
  | .module head items =>
    rw [findsCandidate_module, positioned, mem_positionedAll_iff]
    cases a with
    | nil => simp [among?]
    | cons n a => simp
  | .members b => cases a <;> simp [positioned, FindsCandidate, at?]
  | .other code => cases a <;> simp [positioned, FindsCandidate, at?]

/-- The addresses are those of the structs that have an attribute. -/
theorem mem_positionedAll_iff (path : List String) (n : Nat) (is : List Item) (a : List Nat)
    (c : Candidate) :
    (a, c) ∈ positionedAll path n is ↔
      ∃ m b, a = (n + m) :: b ∧ FindsCandidate path (among? is (m :: b)) c := by
  match is with
  | [] => simp [positionedAll, among?]
  | i :: is =>
    have hhead : (a, c) ∈ (i.positioned path).map (Prod.map (n :: ·) id) ↔
        ∃ b, a = n :: b ∧ FindsCandidate path (among? (i :: is) (0 :: b)) c := by
      rw [List.mem_map]
      constructor
      · rintro ⟨⟨b, c⟩, hd, ⟨⟩⟩
        exact ⟨b, rfl, (mem_positioned_iff path i b c).mp hd⟩
      · rintro ⟨b, rfl, hc⟩
        exact ⟨(b, c), (mem_positioned_iff path i b c).mpr hc, rfl⟩
    -- what is at position `m` of the other items is at position `m + 1` of all of them
    have hshift (m : Nat) : n + 1 + m = n + (m + 1) := by omega
    simp only [positionedAll, List.mem_append, hhead, mem_positionedAll_iff, hshift]
    constructor
    · rintro (⟨b, rfl, hc⟩ | ⟨m, b, rfl, hc⟩)
      · exact ⟨0, b, rfl, hc⟩
      · exact ⟨m + 1, b, rfl, hc⟩
    · rintro ⟨m, b, rfl, hc⟩
      cases m with
      | zero => exact .inl ⟨b, rfl, hc⟩
      | succ m => exact .inr ⟨m, b, rfl, hc⟩

end

/-! ## Source order -/

mutual

theorem pairwise_positioned (path : List String) (i : Item) :
    (i.positioned path).Pairwise fun p q ↦ List.Lex (· < ·) p.1 q.1 := by
  match i with
  | .struct s =>
    rw [positioned]
    split
    · exact .nil
    · exact List.pairwise_singleton _ _
  | .module head items => exact pairwise_positionedAll _ 0 items
  | .members b => exact .nil
  | .other code => exact .nil

/-- The addresses ascend. -/
theorem pairwise_positionedAll (path : List String) (n : Nat) (is : List Item) :
    (positionedAll path n is).Pairwise fun p q ↦ List.Lex (· < ·) p.1 q.1 := by
  match is with
  | [] => exact .nil
  | i :: is =>
    rw [positionedAll, List.pairwise_append, List.pairwise_map]
    refine ⟨(pairwise_positioned path i).imp fun h ↦ ?_, pairwise_positionedAll path _ is, ?_⟩
    · exact List.cons_lex_cons_iff.mpr (.inr ⟨rfl, h⟩)
    · rintro d hd ⟨b, c⟩ hc
      obtain ⟨e, -, rfl⟩ := List.mem_map.mp hd
      obtain ⟨m, b, rfl, -⟩ := (mem_positionedAll_iff path (n + 1) is b c).mp hc
      exact List.cons_lex_cons_iff.mpr (.inl (by omega))

end

/-! ## Marked structs -/

mutual

theorem mem_marked_iff (path : List String) (i : Item) (name : String) :
    name ∈ i.marked ↔
      ∃ c ∈ i.candidates path, c.item.name = name ∧ c.item.resolve c.path ≠ .ok none := by
  match i with
  | .struct s =>
    rw [marked, candidates]
    by_cases hs : s.attributes = []
    · simp [hs]
    · rw [if_neg (List.isEmpty_iff.not.mpr hs)]
      simp only [List.mem_singleton, exists_eq_left, Struct.resolve_ne_none_iff]
      split <;> simp [*, eq_comm]
  | .module head items => exact mem_markedAll_iff _ items name
  | .members b => simp [marked, candidates]
  | .other code => simp [marked, candidates]

/-- The marked structs are the candidates that resolve to something, or are an error. -/
theorem mem_markedAll_iff (path : List String) (is : List Item) (name : String) :
    name ∈ markedAll is ↔
      ∃ c ∈ candidatesAll path is, c.item.name = name ∧ c.item.resolve c.path ≠ .ok none := by
  match is with
  | [] => simp [markedAll, candidatesAll]
  | i :: is =>
    rw [markedAll, candidatesAll, List.mem_append, mem_marked_iff path i, mem_markedAll_iff path is]
    simp only [List.mem_append, or_and_right, exists_or]

end

end Item

/-- The index and the candidates are made of the same structs and modules.  A name is an identifier
of the index exactly if some candidate of that name resolves to something, or is an error.  The
candidates are the structs that have an attribute, each once, in source order, with the names of the
modules around them.  And the index has entries for the types that a block of members is written for
in an inline module, under the path of the module, and for no others. -/
theorem Index.ofItems_sees_candidates (items : List Item) :
    (∀ name, name ∈ (Index.ofItems items).identifiers ↔
      ∃ c ∈ Item.candidatesAll [] items, c.item.name = name ∧ c.item.resolve c.path ≠ .ok none) ∧
    (∃ positioned : List (List Nat × Candidate),
      positioned.map Prod.snd = Item.candidatesAll [] items ∧
      positioned.Pairwise (fun p q ↦ List.Lex (· < ·) p.1 q.1) ∧
      ∀ a c, (a, c) ∈ positioned ↔
        Item.among? items a = some (c.path, .struct c.item) ∧ c.item.attributes ≠ []) ∧
    ∀ k, (∃ e ∈ (Index.ofItems items).entries, e.key = k) ↔
      ∃ inner ∈ Item.modulesAt k.path items, ∃ b, .members b ∈ inner ∧ b.IsFor k.name := by
  refine ⟨Item.mem_markedAll_iff [] items,
    ⟨Item.positionedAll [] 0 items, Item.map_snd_positionedAll [] 0 items,
      Item.pairwise_positionedAll [] 0 items, fun a c ↦ ?_⟩, fun k ↦ ?_⟩
  · rw [Item.mem_positionedAll_iff, ← Item.findsCandidate_nil]
    cases a with
    | nil => simp [Item.among?]
    | cons n a => simp
  · rw [(lists_ofItems items).exists_entry_iff]
    constructor
    · intro h
      obtain ⟨b, hb⟩ := List.exists_mem_of_ne_nil _ h
      obtain ⟨inner, hinner, hmem, hfor⟩ := Item.mem_inherentBlocks_iff.mp hb
      exact ⟨inner, hinner, b, hmem, hfor⟩
    · rintro ⟨inner, hinner, b, hb⟩
      exact List.ne_nil_of_mem (Item.mem_inherentBlocks_iff.mpr ⟨inner, hinner, hb⟩)

end TypedIds
