import TypedIds.Proofs.Expansion.Replacements
import TypedIds.Proofs.Grammar.Reader

/-!
# Where expansions are placed

What a module tree should become can be said without any table: every struct is replaced by its own
expansion, and all else stays.  `Item.placed` says it, given what each struct is replaced by, and
`Candidate.place?` is what that is.  This file finds out when expanding a module does just that.

* The two passes over a module, collecting candidates and splicing, visit the same structs in the
  same order, `Item.structs`, so splicing a tree is `Replacements.takeAll` on the keys of its
  structs (`Item.splice_eq_placed_iff`).
* Where units are written does not matter to an expansion, so it is the same whichever of the other
  structs are expanded before (`Candidate.place?_congr`).
* **`expandItems_eq_placed_iff`**: each struct is replaced by its own expansion exactly if no marked
  struct comes after a struct of its name in a module of its path (`Item.MarkersComeFirst`).

A marked struct that comes after one of its name is the one that goes wrong: its expansion is put in
the place of the earlier one, and it stays as it is, marker included.
-/

set_option autoImplicit false

namespace TypedIds

/-! ## The structs of a tree -/

mutual

/-- The structs of an item that lies in the module at `path`, in source order. -/
def Item.structs (path : List String) : Item → List Candidate
  | .struct s => [⟨s, path⟩]
  | .module head items => Item.structsAll (path ++ [head.name]) items
  | .members _ => []
  | .other _ => []

/-- The structs of some items that lie in the module at `path`, in source order. -/
def Item.structsAll (path : List String) : List Item → List Candidate
  | [] => []
  | i :: is => i.structs path ++ Item.structsAll path is

end

/-- Whether a struct has a marker, or several. -/
def Candidate.IsMarked (c : Candidate) : Prop := c.item.markers ≠ []

mutual

/-- The candidates of an item are its structs that have an attribute. -/
theorem Item.candidates_eq_filter (path : List String) (i : Item) :
    i.candidates path = (i.structs path).filter fun c ↦ !c.item.attributes.isEmpty := by
  cases i with
  | struct s =>
    rw [Item.candidates, Item.structs, List.filter_singleton]
    cases s.attributes.isEmpty <;> rfl
  | module head items =>
    rw [Item.candidates, Item.structs]
    exact Item.candidatesAll_eq_filter _ items
  | members b => rfl
  | other code => rfl

/-- The candidates of some items are their structs that have an attribute. -/
theorem Item.candidatesAll_eq_filter (path : List String) (is : List Item) :
    Item.candidatesAll path is =
      (Item.structsAll path is).filter fun c ↦ !c.item.attributes.isEmpty := by
  cases is with
  | nil => rfl
  | cons i is =>
    rw [Item.candidatesAll, Item.structsAll, List.filter_append, i.candidates_eq_filter path,
      Item.candidatesAll_eq_filter path is]

end

/-! ## Placing -/

mutual

/-- An item that lies in the module at `path`, with every struct in it replaced by what `f` gives
for it, if anything. -/
def Item.placed (f : Candidate → Option Code) (path : List String) : Item → Item
  | .struct s =>
    match f ⟨s, path⟩ with
    | some code => .other code
    | none => .struct s
  | .module head items => .module head (Item.placedAll f (path ++ [head.name]) items)
  | .members b => .members b
  | .other code => .other code

/-- Some items that lie in the module at `path`, with every struct in them replaced. -/
def Item.placedAll (f : Candidate → Option Code) (path : List String) : List Item → List Item
  | [] => []
  | i :: is => i.placed f path :: Item.placedAll f path is

end

mutual

/-- The structs that are left are those for which there is nothing. -/
theorem Item.structs_placed (f : Candidate → Option Code) (path : List String) (i : Item) :
    (i.placed f path).structs path = (i.structs path).filter fun c ↦ (f c).isNone := by
  cases i with
  | struct s =>
    rw [Item.placed, Item.structs, List.filter_singleton]
    cases f ⟨s, path⟩ <;> rfl
  | module head items =>
    rw [Item.placed, Item.structs, Item.structs]
    exact Item.structsAll_placed f _ items
  | members b => rfl
  | other code => rfl

/-- The structs that are left are those for which there is nothing. -/
theorem Item.structsAll_placed (f : Candidate → Option Code) (path : List String)
    (is : List Item) :
    Item.structsAll path (Item.placedAll f path is) =
      (Item.structsAll path is).filter fun c ↦ (f c).isNone := by
  cases is with
  | nil => rfl
  | cons i is =>
    rw [Item.placedAll, Item.structsAll, Item.structsAll, List.filter_append,
      i.structs_placed f path, Item.structsAll_placed f path is]

end

/-! ## Splicing is taking out in source order -/

open Replacements (takeAll takeAll_cons takeAll_append length_takeAll)

mutual

theorem Item.splice_snd (path : List String) (i : Item) (r : Replacements) :
    (i.splice path r).2 = (takeAll ((i.structs path).map Candidate.key) r).2 := by
  cases i with
  | struct s =>
    simp only [Item.splice, Item.structs, List.map_cons, List.map_nil, takeAll, Candidate.key]
    rcases Replacements.take? ⟨path, s.name⟩ r with _ | ⟨code, r'⟩ <;> rfl
  | module head items =>
    rw [Item.splice, Item.structs]
    exact Item.spliceAll_snd _ items r
  | members b => rfl
  | other code => rfl

theorem Item.spliceAll_snd (path : List String) (is : List Item) (r : Replacements) :
    (Item.spliceAll path is r).2 = (takeAll ((Item.structsAll path is).map Candidate.key) r).2 := by
  cases is with
  | nil => rfl
  | cons i is =>
    rw [Item.spliceAll, Item.structsAll, List.map_append, takeAll_append,
      ← i.splice_snd path r]
    exact Item.spliceAll_snd path is _

end

mutual

/-- Splicing an item places what `f` gives exactly if that is what is taken out for its structs. -/
theorem Item.splice_eq_placed_iff (f : Candidate → Option Code) (path : List String) (i : Item)
    (r : Replacements) :
    (i.splice path r).1 = i.placed f path ↔
      (takeAll ((i.structs path).map Candidate.key) r).1 = (i.structs path).map f := by
  cases i with
  | struct s =>
    simp only [Item.splice, Item.placed, Item.structs, List.map_cons, List.map_nil, takeAll,
      Candidate.key]
    rcases Replacements.take? ⟨path, s.name⟩ r with _ | ⟨code, r'⟩ <;>
      cases f ⟨s, path⟩ <;> simp
  | module head items =>
    rw [Item.splice, Item.placed, Item.structs, Item.module.injEq,
      ← Item.spliceAll_eq_placedAll_iff f (path ++ [head.name]) items r]
    exact and_iff_right rfl
  | members b => simp [Item.splice, Item.placed, Item.structs, takeAll]
  | other code => simp [Item.splice, Item.placed, Item.structs, takeAll]

/-- Splicing some items places what `f` gives exactly if that is what is taken out for their
structs. -/
theorem Item.spliceAll_eq_placedAll_iff (f : Candidate → Option Code) (path : List String)
    (is : List Item) (r : Replacements) :
    (Item.spliceAll path is r).1 = Item.placedAll f path is ↔
      (takeAll ((Item.structsAll path is).map Candidate.key) r).1 =
        (Item.structsAll path is).map f := by
  cases is with
  | nil => simp [Item.spliceAll, Item.placedAll, Item.structsAll, takeAll]
  | cons i is =>
    rw [Item.spliceAll, Item.placedAll, Item.structsAll, List.map_append, List.map_append,
      takeAll_append, ← i.splice_snd path r, List.cons.injEq, i.splice_eq_placed_iff f path r,
      Item.spliceAll_eq_placedAll_iff f path is]
    -- both halves are as long as there are structs, so the lists agree half by half
    refine ⟨fun h ↦ ?_, fun h ↦ ?_⟩
    · rw [h.1, h.2]
    · exact List.append_inj h (by rw [length_takeAll, List.length_map, List.length_map])

end

/-! ## What a struct is replaced by -/

/-- What stands in the place of a struct: nothing else if it has no marker, the code of its own
expansion, or, if that fails, the struct without its markers and the error. -/
def Candidate.place? (x : Index) (us : Units) (c : Candidate) : Option Code :=
  match c.expand x us with
  | .ok (.code code, _) => some code
  | .ok (.failed d, _) => some (c.item.withoutMarkers.code ++ d.errorCode)
  | .ok (.unmarked, _) | .error _ => none

/-- What has been written after one more unit. -/
def Units.including (us : Units) (u : GeneratedUnit) : Units :=
  match us with
  | .directory files => .directory (Units.put u.fileName u.code files)
  | us => us

theorem Units.write_eq (us : Units) (u : GeneratedUnit) :
    us.write u =
      match us.obstacle? u with
      | some o => .error ⟨Units.problem u o, .nowhere⟩
      | none => .ok (us.including u) := by
  unfold Units.write
  cases us.obstacle? u with
  | some o => rfl
  | none => cases us <;> rfl

/-- What keeps units from being written stays the same. -/
theorem Units.obstacle?_including (us : Units) (u : GeneratedUnit) :
    (us.including u).obstacle? = us.obstacle? := by
  cases us <;> rfl

/-- The index is asked only after the marker has been read. -/
theorem Candidate.declaration?_eq (c : Candidate) (x : Index) :
    c.declaration? x =
      match c.reading? with
      | .error n => .error n
      | .ok (.error d) => .ok (.error d)
      | .ok (.ok none) => .ok (.ok none)
      | .ok (.ok (some (t, m))) =>
        .ok ((Declaration.ofMarked t.kind t.item m x t.path).map some) := by
  rw [declaration?]
  rcases c.reading? with n | d | _ | ⟨t, m⟩ <;> rfl

/-- All that an expansion can do. -/
theorem Candidate.expand_eq (x : Index) (us : Units) (c : Candidate) :
    c.expand x us =
      match c.declaration? x with
      | .error n => .error n
      | .ok (.ok none) => .ok (.unmarked, us)
      | .ok (.error d) => .ok (.failed d, us)
      | .ok (.ok (some d)) =>
        match d.unit c.path with
        | .error n => .error n
        | .ok u =>
          match us.obstacle? u with
          | some o => .ok (.failed ⟨Units.problem u o, .nowhere⟩, us)
          | none => .ok (.code u.code, us.including u) := by
  rw [Candidate.expand]
  rcases c.declaration? x with n | e | _ | d
  · rfl
  · rfl
  · rfl
  · simp only [bind, Except.bind]
    cases d.unit c.path with
    | error n => rfl
    | ok u =>
      simp only [emit, Units.write_eq]
      cases us.obstacle? u <;> rfl

/-- All that the expansion of a marker with its arguments can do. -/
theorem expandMarker_eq (kind : MarkerKind) (args item : List Tree) (us : Units) :
    expandMarker kind args item us =
      match markedDeclaration kind args item with
      | .error n => .error n
      | .ok (.error d) => .ok (.error d, us)
      | .ok (.ok d) =>
        match d.unit [] with
        | .error n => .error n
        | .ok u =>
          match us.obstacle? u with
          | some o => .ok (.error ⟨Units.problem u o, .nowhere⟩, us)
          | none => .ok (.ok u.code, us.including u) := by
  rw [expandMarker]
  rcases markedDeclaration kind args item with n | d | d
  · rfl
  · rfl
  · simp only [bind, Except.bind, unitOf]
    cases d.unit [] with
    | error n => rfl
    | ok u =>
      simp only [Except.map, emit, Units.write_eq]
      cases us.obstacle? u <;> rfl

/-- An expansion leaves what keeps units from being written as it is. -/
theorem Candidate.expand_obstacle? {x : Index} {us us' : Units} {c : Candidate} {e : Expansion}
    (h : c.expand x us = .ok (e, us')) : us'.obstacle? = us.obstacle? := by
  rw [expand_eq] at h
  split at h
  · cases h
  · cases h; rfl
  · cases h; rfl
  · split at h
    · cases h
    · split at h
      · cases h; rfl
      · cases h; exact Units.obstacle?_including us _

/-- An expansion does not depend on the units that have been written. -/
theorem Candidate.place?_congr {x : Index} {us us' : Units} (h : us'.obstacle? = us.obstacle?)
    (c : Candidate) : c.place? x us' = c.place? x us := by
  simp only [place?, expand_eq, h]
  rcases c.declaration? x with n | e | _ | d
  · rfl
  · rfl
  · rfl
  · dsimp only
    cases d.unit c.path with
    | error n => rfl
    | ok u =>
      dsimp only
      cases us.obstacle? u <;> rfl

theorem Candidate.reading?_eq_none_iff {c : Candidate} :
    c.reading? = .ok (.ok none) ↔ ¬c.IsMarked := by
  rw [reading?, Struct.resolve, IsMarked, not_not]
  rcases c.item.markers with _ | ⟨⟨kind, a⟩, _ | ⟨⟨kind', a'⟩, ms⟩⟩
  · exact iff_of_true rfl rfl
  · refine iff_of_false (fun h ↦ ?_) (List.cons_ne_nil _ _)
    obtain ⟨r, -, h⟩ := exists_of_bind_eq_ok h
    cases r <;> cases h
  · exact iff_of_false (fun h ↦ by cases h) (List.cons_ne_nil _ _)

theorem Candidate.declaration?_eq_none_iff {x : Index} {c : Candidate} :
    c.declaration? x = .ok (.ok none) ↔ ¬c.IsMarked := by
  rw [← reading?_eq_none_iff, declaration?_eq]
  rcases c.reading? with n | d | _ | ⟨t, m⟩
  · simp
  · simp
  · simp
  · dsimp only
    cases Declaration.ofMarked t.kind t.item m x t.path <;> simp [Except.map]

/-- A struct without a marker stays. -/
theorem Candidate.place?_of_not_isMarked {x : Index} {us : Units} {c : Candidate}
    (h : ¬c.IsMarked) : c.place? x us = none := by
  rw [place?, expand_eq, declaration?_eq_none_iff.mpr h]

/-- A struct with a marker does not stay, unless its expansion stops all others. -/
theorem Candidate.place?_isSome {x : Index} {us : Units} {c : Candidate} {p : Expansion × Units}
    (hm : c.IsMarked) (h : c.expand x us = .ok p) : (c.place? x us).isSome := by
  rw [place?, h]
  rw [expand_eq] at h
  split at h
  next => cases h
  next hd => exact absurd hm (declaration?_eq_none_iff.mp hd)
  next => cases h; rfl
  next =>
    split at h
    next => cases h
    next => split at h <;> cases h <;> rfl

/-! ## Expanding all candidates -/

open Replacements (insertAll insertAll_cons insertAll_filter takeAll_insertAll_iff)

theorem Candidate.replacement?_eq_place? {x : Index} {us us' : Units} {c : Candidate}
    {e : Expansion} (h : c.expand x us = .ok (e, us')) :
    c.replacement? e = c.place? x us := by
  rw [Candidate.place?, h]
  cases e <;> rfl

/-- If no candidate stops the expansion, what is put in for each is its own replacement, and every
marked one has a replacement. -/
theorem expandCandidates_ok {x : Index} {us us' : Units} {cs : List Candidate}
    {r r' : Replacements} (h : expandCandidates x cs r us = .ok (r', us')) :
    r' = insertAll (Candidate.place? x us) cs r ∧
      ∀ c ∈ cs, c.IsMarked → (c.place? x us).isSome := by
  induction cs generalizing r us with
  | nil =>
    rw [expandCandidates] at h
    cases h
    exact ⟨rfl, by simp⟩
  | cons c cs ih =>
    rw [expandCandidates] at h
    cases he : c.expand x us with
    | error n => rw [he] at h; cases h
    | ok p =>
      obtain ⟨e, us₁⟩ := p
      rw [he] at h
      have hplace : Candidate.place? x us₁ = Candidate.place? x us :=
        funext (Candidate.place?_congr (Candidate.expand_obstacle? he))
      obtain ⟨hr, hall⟩ := ih h
      rw [hplace] at hr hall
      rw [insertAll_cons, ← Candidate.replacement?_eq_place? he]
      refine ⟨hr, fun d hd hm ↦ ?_⟩
      rcases List.mem_cons.mp hd with rfl | hd
      · exact Candidate.place?_isSome hm he
      · exact hall d hd hm

/-- No marked struct comes after a struct of the same name in a module of the same path. -/
def Item.MarkersComeFirst (items : List Item) : Prop :=
  (Item.structsAll [] items).Pairwise fun a b ↦ a.key = b.key → ¬b.IsMarked

/-- A marked struct is a candidate, since its marker is an attribute. -/
theorem Candidate.IsMarked.hasAttributes {c : Candidate} (h : c.IsMarked) :
    (!c.item.attributes.isEmpty) = true := by
  rw [Candidate.IsMarked, Struct.markers] at h
  cases ha : c.item.attributes with
  | nil => rw [ha] at h; exact absurd rfl h
  | cons a as => rfl

/-- Expanded items are what splicing makes of them with what the candidates put in. -/
theorem expandItems_ok {items items' : List Item} {us us' : Units}
    (h : expandItems items us = .ok (items', us')) :
    items' = (Item.spliceAll [] items
        (insertAll (Candidate.place? (.ofItems items) us) (Item.structsAll [] items) [])).1 ∧
      ∀ c ∈ Item.structsAll [] items,
        c.IsMarked → (c.place? (.ofItems items) us).isSome := by
  rw [expandItems] at h
  cases he : expandCandidates (.ofItems items) (Item.candidatesAll [] items) [] us with
  | error n => rw [he] at h; cases h
  | ok p =>
    obtain ⟨r, us₁⟩ := p
    rw [he] at h
    obtain ⟨rfl, -⟩ := Prod.mk.inj (Except.ok.inj h)
    obtain ⟨rfl, hall⟩ := expandCandidates_ok he
    rw [Item.candidatesAll_eq_filter] at hall
    rw [Item.candidatesAll_eq_filter, insertAll_filter fun c hc ↦ ?_]
    · exact ⟨rfl, fun c hc hm ↦ hall c (List.mem_filter.mpr ⟨hc, hm.hasAttributes⟩) hm⟩
    · refine Candidate.place?_of_not_isMarked fun hm ↦ ?_
      rw [hm.hasAttributes] at hc
      cases hc

/-- Each struct of the expanded items is replaced by its own expansion exactly if no marked struct
comes after one of its name. -/
theorem expandItems_eq_placed_iff {items items' : List Item} {us us' : Units}
    (h : expandItems items us = .ok (items', us')) :
    items' = Item.placedAll (Candidate.place? (.ofItems items) us) [] items ↔
      Item.MarkersComeFirst items := by
  obtain ⟨rfl, hall⟩ := expandItems_ok h
  rw [Item.spliceAll_eq_placedAll_iff, takeAll_insertAll_iff, Item.MarkersComeFirst]
  -- having a replacement and being marked are the same, for the structs of these items
  refine List.Pairwise.iff_of_mem fun {a b} _ hb ↦ imp_congr_right fun _ ↦ ?_
  refine ⟨fun hn hm ↦ ?_, Candidate.place?_of_not_isMarked⟩
  have hs := hall b hb hm
  rw [hn] at hs
  cases hs

/-- No marked struct is left if each is replaced by its own expansion. -/
theorem not_isMarked_of_expandItems {items items' : List Item} {us us' : Units}
    (h : expandItems items us = .ok (items', us')) (hm : Item.MarkersComeFirst items) :
    ∀ c ∈ Item.structsAll [] items', ¬c.IsMarked := by
  intro c hc hcm
  rw [(expandItems_eq_placed_iff h).mpr hm, Item.structsAll_placed, List.mem_filter] at hc
  have hs := (expandItems_ok h).2 c hc.1 hcm
  rw [Option.isNone_iff_eq_none.mp hc.2] at hs
  cases hs

/-! ## Expanding a module -/

/-- **An expanded module** is the module that was given, its items in the same order.  Every struct
in it is replaced, at its own place, by its own expansion, or by itself without markers and its own
error, and all else is as it was, exactly if no marked struct comes after a struct of its name in a
module of its path.  No marker is left then. -/
theorem expandModule_eq_placed_iff {item : List Tree} {us us' : Units} {code : Code}
    (h : expandModule [] item us = .ok (.ok code, us')) :
    ∃ head items items',
      moduleToExpand [] item = .ok (head, items) ∧ expandItems items us = .ok (items', us') ∧
        code = (Item.module head items').code ∧
        (items' = Item.placedAll (Candidate.place? (.ofItems items) us) [] items ↔
          Item.MarkersComeFirst items) ∧
        (Item.MarkersComeFirst items → ∀ c ∈ Item.structsAll [] items', ¬c.IsMarked) := by
  rw [expandModule] at h
  rcases hm : moduleToExpand [] item with d | ⟨head, items⟩
  · rw [hm] at h
    cases h
  · rw [hm] at h
    rcases he : expandItems items us with n | ⟨items', us₁⟩
    · simp only [bind, Except.bind, he] at h
      cases h
    · simp only [bind, Except.bind, he] at h
      cases h
      exact ⟨head, items, items', rfl, he, rfl, expandItems_eq_placed_iff he,
        not_isMarked_of_expandItems he⟩

/-- A module with two structs of one name in modules of different paths, one of which fails, and
two modules of one path. -/
def nestedModules : String :=
  "mod m \x7b #[guid_id] struct A; " ++
    "mod n \x7b #[string_id(x)] struct A; \x7d mod n \x7b struct B; \x7d \x7d"

theorem expandModule_nestedModules :
    ∃ item code us',
      Tree.read nestedModules = .ok item ∧ expandModule [] item .ignored = .ok (.ok code, us') ∧
        ∃ head items items',
          moduleToExpand [] item = .ok (head, items) ∧
            expandItems items .ignored = .ok (items', us') ∧
            code = (Item.module head items').code ∧
            (items' = Item.placedAll (Candidate.place? (.ofItems items) .ignored) [] items ↔
              Item.MarkersComeFirst items) ∧
            (Item.MarkersComeFirst items → ∀ c ∈ Item.structsAll [] items', ¬c.IsMarked) := by
  have h : ((Tree.read nestedModules).toOption.any fun item ↦
      (expandModule [] item .ignored).toOption.any fun (result, _) ↦ result.isOk) = true := by
    decide +kernel
  cases hr : Tree.read nestedModules with
  | error p => rw [hr] at h; cases h
  | ok item =>
    rw [hr] at h
    dsimp only [Except.toOption, Option.any_some] at h
    rcases he : expandModule [] item .ignored with n | ⟨d | code, us'⟩
    · rw [he] at h; cases h
    · rw [he] at h; cases h
    · exact ⟨item, code, us', rfl, he, expandModule_eq_placed_iff he⟩

/-- Of two structs of one name, the first is given the expansion of the second, which stays as it
is: the code of the module is not that of each struct replaced by its own expansion. -/
theorem expandModule_same_name_misplaced :
    ((Tree.read "mod m \x7b #[guid_id] struct A; #[string_id] struct A; \x7d").toOption.bind
      fun item ↦ (moduleToExpand [] item).toOption.bind fun (head, items) ↦
        (expandModule [] item .ignored).toOption.bind fun (result, _) ↦
          result.toOption.map fun code ↦
            decide (code = (Item.module head
              (Item.placedAll (Candidate.place? (.ofItems items) .ignored) [] items)).code)) =
      some false := by
  decide +kernel

end TypedIds
