import TypedIds.Hook
import TypedIds.Proofs.Hook.Callable
import TypedIds.Proofs.Marker.Resolution
import TypedIds.Proofs.Module.Blocks

/-!
# Where a hook is looked for

The hook of a type is looked for among the functions of blocks that lie directly in the module of
the type, and that are written for a path which ends in the name of the type.  Nothing else is asked
of the path: a block for `inner::Key` or `super::Key` counts as one for the `Key` beside it.  Names
are compared as they are written, the mark of a raw name included.

* `Hook.detect_ofItems` — the search goes from block to block, and from function to function in
  each.
* **`Hook.detect_finds_first`**: what is found is the first function in source order that has the
  name and the form of a hook, and nothing only if there is none.
* **`Hook.detect_own_iff`**: what is found belongs to the type itself, unless the block that it is
  found in is written for another type, or lies in another module with the same path.
-/

set_option autoImplicit false

namespace TypedIds

/-- The functions of blocks for a type of this name that are written directly in the modules at a
path, in source order. -/
def Item.functionsFor (path : List String) (name : String) (items : List Item) : List Method :=
  (Item.inherentBlocks path name items).flatMap MemberBlock.methods

namespace Hook

variable {kind : MarkerKind} {cs : List Component}

/-! ## From block to block -/

/-- The hook that a function is by its name and its form. -/
def ofMethod? (kind : MarkerKind) (cs : List Component) (f : Method) : Option Hook :=
  if f.signature.name = functionName then classify kind cs f else none

theorem ofMethod?_eq_some_iff {f : Method} {h : Hook} :
    ofMethod? kind cs f = some h ↔
      f.signature.name = functionName ∧ classify kind cs f = some h := by
  rw [ofMethod?]
  split
  next hname => exact (and_iff_right hname).symm
  next hname => exact iff_of_false nofun fun h ↦ hname h.1

theorem ofMethod?_eq_none_iff {f : Method} :
    ofMethod? kind cs f = none ↔ (f.signature.name = functionName → classify kind cs f = none) := by
  rw [ofMethod?]
  split
  next hname => exact ⟨fun h _ ↦ h, fun h ↦ h hname⟩
  next hname => exact iff_of_true rfl fun h ↦ absurd h hname

theorem findSome?_filter_name (fs : List Method) :
    (fs.filter (·.signature.name == functionName)).findSome? (classify kind cs) =
      fs.findSome? (ofMethod? kind cs) := by
  induction fs with
  | nil => rfl
  | cons f fs ih =>
    rw [List.filter_cons, List.findSome?_cons, ← ih, ofMethod?]
    by_cases hname : f.signature.name = functionName
    · rw [if_pos (beq_iff_eq.mpr hname), if_pos hname, List.findSome?_cons]
    · rw [if_neg (by simpa using hname), if_neg hname]

/-- The search goes through the functions of the type in source order. -/
theorem detect_functions (items : List Item) (path : List String) (name : String)
    (kind : MarkerKind) (cs : List Component) :
    detect (.ofItems items) path name kind cs none =
      (Item.functionsFor path name items).findSome? (ofMethod? kind cs) := by
  rw [Item.functionsFor, ← Index.methods_ofItems, detect]
  cases (Index.ofItems items).membersOf? path name with
  | none => rfl
  | some members => exact findSome?_filter_name members.methods

end Hook

/-- The first hook that a block declares. -/
def MemberBlock.hook? (kind : MarkerKind) (cs : List Component) (b : MemberBlock) : Option Hook :=
  b.methods.findSome? (Hook.ofMethod? kind cs)

namespace Hook

/-- The search goes from block to block. -/
theorem detect_ofItems (items : List Item) (path : List String) (name : String)
    (kind : MarkerKind) (cs : List Component) :
    detect (.ofItems items) path name kind cs none =
      (Item.inherentBlocks path name items).findSome? (MemberBlock.hook? kind cs) := by
  rw [detect_functions, Item.functionsFor]
  induction Item.inherentBlocks path name items with
  | nil => rfl
  | cons b bs ih =>
    rw [List.flatMap_cons, List.findSome?_append, ih, List.findSome?_cons, MemberBlock.hook?]
    cases b.methods.findSome? (ofMethod? kind cs) <;> rfl

/-! ## The first function -/

/-- **The search is complete, and in source order.**  What is found for a type is what the first of
its functions is that has the name and the form of a hook; functions before it that have the name
and not the form do not matter.  Nothing is found only if there is no such function.  A function
that is named by the option is the hook, whatever the tree holds, and taken to yield the value or an
error. -/
theorem detect_finds_first (items : List Item) (path : List String) (name : String)
    (kind : MarkerKind) (cs : List Component) :
    (∀ h, detect (.ofItems items) path name kind cs none = some h ↔
      ∃ before f after, Item.functionsFor path name items = before ++ f :: after ∧
        f.signature.name = functionName ∧ classify kind cs f = some h ∧
        ∀ g ∈ before, g.signature.name = functionName → classify kind cs g = none) ∧
    (detect (.ofItems items) path name kind cs none = none ↔
      ∀ f ∈ Item.functionsFor path name items,
        f.signature.name = functionName → classify kind cs f = none) ∧
    ∀ f, detect (.ofItems items) path name kind cs (some f) = some ⟨f, .resultValue⟩ := by
  rw [detect_functions]
  refine ⟨fun h ↦ ?found, ?nothing, fun _ ↦ rfl⟩
  case found =>
    simp only [List.findSome?_eq_some_iff, ofMethod?_eq_some_iff, ofMethod?_eq_none_iff, and_assoc]
  case nothing => simp only [List.findSome?_eq_none_iff, ofMethod?_eq_none_iff]

end Hook

/-! ## The type itself -/

/-- Whether the names before the last one of a path lead to the module that it is written in. -/
def Segment.stayHere : (front : List Segment) → Bool
  | [] => true
  | [s] => s.name == "self" && s.args.isNone
  | _ => false

/-- The name of a type in the same module that a path is written for: the name alone, or `self`
before it. -/
def Ty.ownName? : Ty → Option String
  | .path false front last =>
    if Segment.stayHere front && last.args.isEmpty then some last.name else none
  | _ => none

theorem Ty.pathName?_of_ownName? {name : String} {t : Ty} (h : t.ownName? = some name) :
    t.pathName? = some name := by
  rw [ownName?.eq_def] at h
  split at h
  · split at h
    · exact h
    · cases h
  · cases h

namespace MemberBlock

/-- A block holds members of the type of this name that is declared beside it. -/
def IsOwn (name : String) (b : MemberBlock) : Prop :=
  b.ofTrait = false ∧ b.selfType.strip.ownName? = some name

instance (name : String) (b : MemberBlock) : Decidable (b.IsOwn name) :=
  inferInstanceAs (Decidable (_ ∧ _))

theorem IsOwn.isFor {name : String} {b : MemberBlock} (h : b.IsOwn name) : b.IsFor name :=
  ⟨h.1, Ty.pathName?_of_ownName? h.2⟩

/-- A block has a function that is this hook. -/
def Declares (kind : MarkerKind) (cs : List Component) (h : Hook) (b : MemberBlock) : Prop :=
  ∃ f ∈ b.methods, f.signature.name = Hook.functionName ∧ Hook.classify kind cs f = some h

instance (kind : MarkerKind) (cs : List Component) (h : Hook) (b : MemberBlock) :
    Decidable (b.Declares kind cs h) :=
  inferInstanceAs (Decidable (∃ f ∈ b.methods, _ ∧ _))

theorem declares_of_hook? {kind : MarkerKind} {cs : List Component} {h : Hook} {b : MemberBlock}
    (hb : b.hook? kind cs = some h) : b.Declares kind cs h := by
  obtain ⟨f, hf, hh⟩ := List.exists_of_findSome?_eq_some hb
  exact ⟨f, hf, Hook.ofMethod?_eq_some_iff.mp hh⟩

theorem not_declares_of_hook? {kind : MarkerKind} {cs : List Component} {h : Hook}
    {b : MemberBlock} (hb : b.hook? kind cs = none) : ¬b.Declares kind cs h := by
  rintro ⟨f, hf, hname, hh⟩
  have hnone := Hook.ofMethod?_eq_none_iff.mp (List.findSome?_eq_none_iff.mp hb f hf) hname
  rw [hnone] at hh
  cases hh

end MemberBlock

namespace Item

/-- The blocks among these items that are for the type of this name among them. -/
def ownBlocks (name : String) (items : List Item) : List MemberBlock :=
  (items.filterMap block?).filter (·.IsOwn name)

variable {items body : List Item} {path : List String} {name : String} {b : MemberBlock}

/-- The blocks of the type itself are among those that are searched. -/
theorem mem_inherentBlocks_of_mem_ownBlocks (hbody : body ∈ modulesAt path items)
    (hb : b ∈ ownBlocks name body) : b ∈ inherentBlocks path name items := by
  obtain ⟨hmem, hown⟩ := List.mem_filter.mp hb
  have hfor : b.IsFor name := (of_decide_eq_true hown).isFor
  exact List.mem_flatMap.mpr ⟨body, hbody, List.mem_filter.mpr ⟨hmem, decide_eq_true hfor⟩⟩

end Item

namespace Hook

variable {items body : List Item} {path : List String} {name : String}

/-- **Whose hook is found.**  What is found for a type in a module is a hook of the type itself
exactly if the first block with a hook is a block of the type in this module, or a block of the type
that comes later has the same hook.  The first block may be one for a type of the same name in
another module, and it may lie in another module with the same path.  If there is no such block,
what is found is a hook of the type itself. -/
theorem detect_own_iff (kind : MarkerKind) (cs : List Component)
    (hbody : body ∈ Item.modulesAt path items) :
    ((∀ h, detect (.ofItems items) path name kind cs none = some h →
        ∃ b ∈ Item.ownBlocks name body, b.Declares kind cs h) ↔
      ∀ before b after h, Item.inherentBlocks path name items = before ++ b :: after →
        (∀ c ∈ before, c.hook? kind cs = none) → b.hook? kind cs = some h →
          b ∈ Item.ownBlocks name body ∨
            ∃ c ∈ after, c ∈ Item.ownBlocks name body ∧ c.Declares kind cs h) ∧
    ((∀ b ∈ Item.inherentBlocks path name items, b ∈ Item.ownBlocks name body) →
      ∀ h, detect (.ofItems items) path name kind cs none = some h →
        ∃ b ∈ Item.ownBlocks name body, b.Declares kind cs h) := by
  rw [detect_ofItems]
  refine ⟨⟨fun hdeclared before b after h hsplit hbefore hb ↦ ?later, fun hfirst h hfound ↦ ?own⟩,
    fun hall h hfound ↦ ?only⟩
  case later =>
    have hfound : (Item.inherentBlocks path name items).findSome? (MemberBlock.hook? kind cs) =
        some h := List.findSome?_eq_some_iff.mpr ⟨before, b, after, hsplit, hb, hbefore⟩
    obtain ⟨c, hc, hdeclares⟩ := hdeclared h hfound
    have hmem := Item.mem_inherentBlocks_of_mem_ownBlocks hbody hc
    rw [hsplit, List.mem_append, List.mem_cons] at hmem
    obtain hmem | rfl | hmem := hmem
    · exact absurd hdeclares (MemberBlock.not_declares_of_hook? (hbefore c hmem))
    · exact .inl hc
    · exact .inr ⟨c, hmem, hc, hdeclares⟩
  case own =>
    obtain ⟨before, b, after, hsplit, hb, hbefore⟩ := List.findSome?_eq_some_iff.mp hfound
    obtain hown | ⟨c, -, hc, hdeclares⟩ := hfirst before b after h hsplit hbefore hb
    · exact ⟨b, hown, MemberBlock.declares_of_hook? hb⟩
    · exact ⟨c, hc, hdeclares⟩
  case only =>
    obtain ⟨b, hb, hh⟩ := List.exists_of_findSome?_eq_some hfound
    exact ⟨b, hall b hb, MemberBlock.declares_of_hook? hh⟩

/-! ### Two types of one name -/

/-- `#[guid_id] struct Key;` -/
def markedKey : Item :=
  .struct {
    attributes := [.marking .guid [] .nowhere .nowhere .nowhere], visibility := [], name := "Key"
    generics := .none, predicates := none, fields := .unit }

/-- A block for a path of plain names, with `fn check_value(v: Uuid) {}` in it. -/
def keyBlock (front : List String) : Item :=
  let t := (Path.ofNames false front "Key").toTy
  .members {
    ofTrait := false, selfType := t, members := [.method looking]
    code := .word "impl" :: t.code ++
      Code.within .braces (looking.signature.code ++ Code.within .braces []) }

/-- A module with a type, a block of this type, and other items. -/
def innerModule (items : List Item) : Item :=
  .module ⟨[.word "mod"], "inner", []⟩ (markedKey :: items)

/-- In a module in which the type has a block, what is found is a hook of the type. -/
theorem detect_own_iff_innerModule :
    [markedKey, keyBlock ["self"]] ∈ Item.modulesAt ["inner"] [innerModule [keyBlock ["self"]]] ∧
      detect (.ofItems [innerModule [keyBlock ["self"]]]) ["inner"] "Key" .guid [] none =
        some ⟨functionName, .unit⟩ ∧
      ∃ b ∈ Item.ownBlocks "Key" [markedKey, keyBlock ["self"]],
        b.Declares .guid [] ⟨functionName, .unit⟩ := by
  have hbody : [markedKey, keyBlock ["self"]] ∈
      Item.modulesAt ["inner"] [innerModule [keyBlock ["self"]]] := List.mem_singleton_self _
  have hfound : detect (.ofItems [innerModule [keyBlock ["self"]]]) ["inner"] "Key" .guid [] none =
      some ⟨functionName, .unit⟩ := by decide +kernel
  have hall : ∀ b ∈ Item.inherentBlocks ["inner"] "Key" [innerModule [keyBlock ["self"]]],
      b ∈ Item.ownBlocks "Key" [markedKey, keyBlock ["self"]] :=
    List.forall_mem_singleton.mpr (List.mem_singleton_self _)
  exact ⟨hbody, hfound, (detect_own_iff .guid [] hbody).2 hall _ hfound⟩

/-- What is found for a type need not be a hook that it has: here the only block is one for a type
in an inner module, though it lies beside the other type. -/
theorem detect_block_of_inner :
    detect (.ofItems [innerModule [], markedKey, keyBlock ["inner"]]) [] "Key" .guid [] none =
        some ⟨functionName, .unit⟩ ∧
      Item.ownBlocks "Key" [innerModule [], markedKey, keyBlock ["inner"]] = [] :=
  ⟨by decide +kernel, rfl⟩

end Hook

end TypedIds
