import TypedIds.Proofs.Expansion.Independence

/-!
# What comes of a module

Whatever is wrong with a struct of a module becomes a report in its place, and the other structs do
not see it.  There are two exceptions, and this file says that there are no others.

* The expansion of the whole module is stopped by a struct of one of two kinds, `Candidate.IsFatal`
  (`expandItems_eq_error_iff`): a UUID of which the type cannot be read, since the path of the
  library begins no type, and a scalar identifier with a raw name that is otherwise valid, since no
  converter can be named after it.
* Of the marked structs with one name in modules of one path, only the last one is found in the
  result: `Item.LastMarked` (`mem_othersAll_of_expandItems`).

**`expandModule_outcome`** puts this together: a module is expanded exactly if no struct in it is
fatal, never is a diagnostic reported in the place of the module, and the code that is new in the
result is that of the structs that are the last of their names.
-/

set_option autoImplicit false

namespace TypedIds

/-! ## What stops the expansion -/

/-- A struct that stops the expansion of the whole module where its marker is read: it is to be a
UUID, and the path of the library begins no type. -/
def Candidate.StopsAtType (c : Candidate) : Prop := ∃ t m, c.Says t m ∧ ¬m.IsTyped t.kind

/-- A struct that stops it where code is generated: everything is right with it and its marker, but
it becomes a scalar identifier and has a raw name. -/
def Candidate.StopsAtName (c : Candidate) : Prop :=
  ∃ t m, c.Says t m ∧ m.IsTyped t.kind ∧ t.kind.isScalar = true ∧
    Validity.check t.kind t.item m = .ok () ∧ isRaw c.item.name = true

/-- A struct that stops the expansion of the whole module. -/
def Candidate.IsFatal (c : Candidate) : Prop := c.StopsAtType ∨ c.StopsAtName

/-- The code of a declaration cannot be named if it is that of a scalar identifier with a raw
name. -/
theorem Declaration.unit_eq_error_iff {d : Declaration} {path : List String} :
    (∃ n, d.unit path = .error n) ↔ d.kind.isScalar = true ∧ isRaw d.name = true := by
  rw [unit, code, items, converterName]
  cases d.kind.isScalar <;> cases isRaw d.name <;> simp [Except.map]

/-- The unspecified values of components are inferred for a combined identifier only. -/
theorem Declaration.ofMarked_of_isScalar {kind : MarkerKind} (hk : kind.isScalar = true)
    (s : Struct) (m : MarkerArgs) (x : Index) (path : List String) :
    ofMarked kind s m x path =
      (Validity.check kind s m).map fun _ ↦
        ⟨kind, s, m.components, m.options,
          Hook.detect x path s.name kind m.components m.options.check, []⟩ := by
  rw [ofMarked, if_pos hk]
  cases Validity.check kind s m <;> rfl

variable {us us' : Units} {c : Candidate}

/-- What is declared without a name for its converter is a scalar identifier with a raw name. -/
theorem Candidate.exists_unit_eq_error_iff {x : Index} :
    (∃ d, c.declaration? x = .ok (.ok (some d)) ∧ ∃ n, d.unit c.path = .error n) ↔
      c.StopsAtName := by
  constructor
  · rintro ⟨d, hd, hn⟩
    obtain ⟨hscalar, hraw⟩ := Declaration.unit_eq_error_iff.mp hn
    obtain ⟨t, m, ⟨hsaid, htyped⟩, hd⟩ := declaration?_eq_some_iff.mp hd
    obtain ⟨hkind, hitem, hcheck⟩ := Declaration.kind_item_of_ofMarked hd
    rw [hkind] at hscalar
    rw [Declaration.name, hitem, hsaid.name_path.1] at hraw
    exact ⟨t, m, hsaid, htyped, hscalar, hcheck, hraw⟩
  · rintro ⟨t, m, hsaid, htyped, hscalar, hcheck, hraw⟩
    have hd := Declaration.ofMarked_of_isScalar hscalar t.item m x t.path
    rw [hcheck] at hd
    refine ⟨_, declaration?_eq_some_iff.mpr ⟨t, m, ⟨hsaid, htyped⟩, hd⟩,
      Declaration.unit_eq_error_iff.mpr ⟨hscalar, ?_⟩⟩
    rw [Declaration.name, hsaid.name_path.1]
    exact hraw

/-- A struct stops the expansion if it is fatal, whatever the index holds. -/
theorem Candidate.expand_eq_error_iff (x : Index) (us : Units) :
    (∃ n, c.expand x us = .error n) ↔ c.IsFatal := by
  have htype : (∃ n, c.declaration? x = .error n) ↔ c.StopsAtType := by
    have hdeclaration (n : NotAName) : c.declaration? x = .error n ↔ c.reading? = .error n := by
      rw [declaration?_eq]
      rcases c.reading? with n | d | _ | ⟨t, m⟩ <;> simp
    simp only [hdeclaration, reading?_eq_error_iff, StopsAtType]
    exact ⟨fun ⟨_, t, m, hsaid, htyped, _⟩ ↦ ⟨t, m, hsaid, htyped⟩,
      fun ⟨t, m, hsaid, htyped⟩ ↦ ⟨_, t, m, hsaid, htyped, rfl⟩⟩
  rw [IsFatal, ← htype, ← exists_unit_eq_error_iff (x := x), expand_eq]
  rcases c.declaration? x with n | e | _ | d
  · simp
  · simp
  · simp
  · cases hd : d.unit c.path with
    | error n => simp [hd]
    | ok u => cases ho : us.obstacle? u <;> simp [hd, ho]

/-- A fatal struct has a marker. -/
theorem Candidate.IsFatal.isMarked (h : c.IsFatal) : c.IsMarked := by
  obtain ⟨t, m, ⟨ht, -⟩, -⟩ | ⟨t, m, ⟨ht, -⟩, -⟩ := h <;>
  · rw [IsMarked, (Struct.resolve_eq_some ht).1]
    exact List.cons_ne_nil _ _

theorem expandCandidates_eq_error_iff {x : Index} {cs : List Candidate} {r : Replacements} :
    (∃ n, expandCandidates x cs r us = .error n) ↔ ∃ c ∈ cs, c.IsFatal := by
  induction cs generalizing r us with
  | nil => simp [expandCandidates]
  | cons c cs ih =>
    rw [expandCandidates, List.exists_mem_cons_iff]
    cases he : c.expand x us with
    | error n =>
      have hc : c.IsFatal := (Candidate.expand_eq_error_iff x us).mp ⟨n, he⟩
      exact iff_of_true ⟨n, rfl⟩ (.inl hc)
    | ok p =>
      have hc : ¬c.IsFatal := by
        intro hf
        obtain ⟨n, hn⟩ := (Candidate.expand_eq_error_iff x us).mpr hf
        rw [he] at hn
        cases hn
      rw [or_iff_right hc]
      exact ih

/-- The expansion of some items is stopped exactly by a fatal struct. -/
theorem expandItems_eq_error_iff (items : List Item) (us : Units) :
    (∃ n, expandItems items us = .error n) ↔ ∃ c ∈ Item.structsAll [] items, c.IsFatal := by
  have hall : (∃ n, expandItems items us = .error n) ↔
      ∃ n, expandCandidates (.ofItems items) (Item.candidatesAll [] items) [] us = .error n := by
    rw [expandItems]
    cases expandCandidates (.ofItems items) (Item.candidatesAll [] items) [] us <;>
      simp [bind, Except.bind, pure, Except.pure]
  rw [hall, expandCandidates_eq_error_iff, Item.candidatesAll_eq_filter]
  refine exists_congr fun c ↦ ?_
  rw [List.mem_filter]
  constructor
  · rintro ⟨⟨hc, -⟩, hf⟩
    exact ⟨hc, hf⟩
  · rintro ⟨hc, hf⟩
    exact ⟨⟨hc, hf.isMarked.hasAttributes⟩, hf⟩

/-! ## The code in a tree -/

mutual

/-- What is kept as code in an item that lies in the module at `path`, with the path of the module
it is in. -/
def Item.others (path : List String) : Item → List (List String × Code)
  | .struct _ => []
  | .module head items => Item.othersAll (path ++ [head.name]) items
  | .members _ => []
  | .other code => [(path, code)]

/-- What is kept as code in some items that lie in the module at `path`. -/
def Item.othersAll (path : List String) : List Item → List (List String × Code)
  | [] => []
  | i :: is => i.others path ++ Item.othersAll path is

end

mutual

/-- Splicing an item adds the code that the keys of its structs stand for. -/
theorem Item.mem_others_splice {r : Replacements} (hd : r.Distinct) (path : List String) (i : Item)
    (p : List String × Code) :
    p ∈ (i.splice path r).1.others path ↔
      p ∈ i.others path ∨
        ∃ k ∈ (i.structs path).map Candidate.key, k.path = p.1 ∧ r.get? k = some p.2 := by
  cases i with
  | struct s =>
    simp only [Item.splice, Item.structs, Item.others, Replacements.get?, List.map_cons,
      List.map_nil, List.mem_singleton, exists_eq_left, Candidate.key]
    rcases Replacements.take? ⟨path, s.name⟩ r with _ | ⟨code, r'⟩
    · simp [Item.others]
    · simp [Item.others, Prod.ext_iff, eq_comm]
  | module head items =>
    simp only [Item.splice, Item.structs, Item.others]
    exact Item.mem_othersAll_spliceAll hd _ items p
  | members b => simp [Item.splice, Item.structs, Item.others]
  | other code => simp [Item.splice, Item.structs, Item.others]

/-- Splicing some items adds the code that the keys of their structs stand for. -/
theorem Item.mem_othersAll_spliceAll {r : Replacements} (hd : r.Distinct) (path : List String)
    (is : List Item) (p : List String × Code) :
    p ∈ Item.othersAll path (Item.spliceAll path is r).1 ↔
      p ∈ Item.othersAll path is ∨
        ∃ k ∈ (Item.structsAll path is).map Candidate.key, k.path = p.1 ∧ r.get? k = some p.2 := by
  cases is with
  | nil => simp [Item.spliceAll, Item.structsAll, Item.othersAll]
  | cons i is =>
    obtain ⟨hd', hget⟩ := Replacements.takeAll_spec hd ((i.structs path).map Candidate.key)
    rw [← i.splice_snd path r] at hd' hget
    simp only [Item.spliceAll, Item.structsAll, Item.othersAll, List.mem_append, List.map_append]
    rw [i.mem_others_splice hd path p, Item.mem_othersAll_spliceAll hd' path is p]
    constructor
    · rintro ((hp | ⟨k, hk, hpath, hcode⟩) | (hp | ⟨k, hk, hpath, hcode⟩))
      · exact .inl (.inl hp)
      · exact .inr ⟨k, .inl hk, hpath, hcode⟩
      · exact .inl (.inr hp)
      · -- what is still there for the later items was there before the first one
        rw [hget] at hcode
        split at hcode
        · cases hcode
        · exact .inr ⟨k, .inr hk, hpath, hcode⟩
    · rintro ((hp | hp) | ⟨k, hk, hpath, hcode⟩)
      · exact .inl (.inl hp)
      · exact .inr (.inl hp)
      · by_cases hki : k ∈ (i.structs path).map Candidate.key
        · exact .inl (.inr ⟨k, hki, hpath, hcode⟩)
        · refine .inr (.inr ⟨k, hk.resolve_left hki, hpath, ?_⟩)
          rw [hget, if_neg hki, hcode]

end

/-! ## What is new in the expanded items -/

/-- A marked struct after which no other of its name is marked in a module of its path. -/
def Item.LastMarked (items : List Item) (c : Candidate) : Prop :=
  ∃ front back, Item.structsAll [] items = front ++ c :: back ∧ c.IsMarked ∧
    ∀ b ∈ back, b.key = c.key → ¬b.IsMarked

/-- What is kept as code after an expansion was code before, or stands for a struct that is the
last one marked of its name. -/
theorem mem_othersAll_of_expandItems {items items' : List Item}
    (h : expandItems items us = .ok (items', us')) (p : List String × Code) :
    p ∈ Item.othersAll [] items' ↔
      p ∈ Item.othersAll [] items ∨
        ∃ c, Item.LastMarked items c ∧ c.path = p.1 ∧ c.place? (.ofItems items) us = some p.2 := by
  obtain ⟨rfl, hall⟩ := expandItems_ok h
  have hplace : ∀ c ∈ Item.structsAll [] items,
      c.place? (.ofItems items) us = none ↔ ¬c.IsMarked := by
    intro c hc
    refine ⟨fun hn hm ↦ ?_, Candidate.place?_of_not_isMarked⟩
    have hs := hall c hc hm
    rw [hn] at hs
    cases hs
  have hd : Replacements.Distinct (Replacements.insertAll (Candidate.place? (.ofItems items) us)
      (Item.structsAll [] items) []) := Replacements.Distinct.insertAll List.nodup_nil
  rw [Item.mem_othersAll_spliceAll hd]
  refine or_congr_right ?_
  simp only [Replacements.get?_insertAll_eq_ofLast, Replacements.get?_nil, Option.or_none]
  constructor
  · rintro ⟨k, -, hpath, hcode⟩
    obtain ⟨front, c, back, hcs, rfl, hc, hback⟩ := Replacements.ofLast_eq_some_iff.mp hcode
    have hmem : ∀ b ∈ c :: back, b ∈ Item.structsAll [] items := fun b hb ↦ by
      rw [hcs]
      exact List.mem_append_right front hb
    refine ⟨c, ⟨front, back, hcs, ?_, fun b hb hk ↦ ?_⟩, hpath, hc⟩
    · by_contra hm
      rw [(hplace c (hmem c List.mem_cons_self)).mpr hm] at hc
      cases hc
    · exact (hplace b (hmem b (List.mem_cons_of_mem c hb))).mp (hback b hb hk)
  · rintro ⟨c, ⟨front, back, hcs, -, hback⟩, hpath, hc⟩
    have hmem : c ∈ Item.structsAll [] items := by simp [hcs]
    refine ⟨c.key, List.mem_map_of_mem hmem, hpath, Replacements.ofLast_eq_some_iff.mpr ?_⟩
    exact ⟨front, c, back, hcs, rfl, hc, fun b hb hk ↦
      Candidate.place?_of_not_isMarked (hback b hb hk)⟩

/-! ## The module -/

/-- **What comes of an inline module.**  Its expansion is stopped exactly by a struct that is fatal,
and no diagnostic is ever reported for the module as a whole.  If it is not stopped, every marked
struct that is the last of its name becomes, in a module of the same path, its own expansion or, if
that fails, itself without markers and its own error, and no other code is new. -/
theorem expandModule_outcome {item : List Tree} {us : Units} {head : ModuleHead}
    {items : List Item} (hm : moduleToExpand [] item = .ok (head, items)) :
    ((∃ n, expandModule [] item us = .error n) ↔
        ∃ c ∈ Item.structsAll [] items, c.IsFatal) ∧
      (∀ d us', expandModule [] item us ≠ .ok (.error d, us')) ∧
      ∀ code us', expandModule [] item us = .ok (.ok code, us') →
        ∃ items', code = (Item.module head items').code ∧
          ∀ p, p ∈ Item.othersAll [] items' ↔
            p ∈ Item.othersAll [] items ∨
              ∃ c, Item.LastMarked items c ∧ c.path = p.1 ∧
                c.place? (.ofItems items) us = some p.2 := by
  rw [← expandItems_eq_error_iff items us, expandModule, hm]
  simp only [bind, Except.bind, pure, Except.pure]
  cases he : expandItems items us with
  | error n => simp
  | ok p =>
    obtain ⟨items', us₁⟩ := p
    refine ⟨by simp, by simp, fun code us' h ↦ ?_⟩
    cases h
    exact ⟨items', rfl, mem_othersAll_of_expandItems he⟩

/-- A module in which a marker has an unknown option, a struct in a module of it has two markers,
and a third struct is as it should be. -/
def troubledModule : String :=
  "mod m \x7b #[string_id(x)] struct A; " ++
    "mod n \x7b #[guid_id] #[string_id] struct B; \x7d #[guid_id] struct C; \x7d"

theorem expandModule_troubledModule :
    ∃ item head items,
      Tree.read troubledModule = .ok item ∧ moduleToExpand [] item = .ok (head, items) ∧
        ((∃ n, expandModule [] item .ignored = .error n) ↔
            ∃ c ∈ Item.structsAll [] items, c.IsFatal) ∧
          (∀ d us', expandModule [] item .ignored ≠ .ok (.error d, us')) ∧
          ∀ code us', expandModule [] item .ignored = .ok (.ok code, us') →
            ∃ items', code = (Item.module head items').code ∧
              ∀ p, p ∈ Item.othersAll [] items' ↔
                p ∈ Item.othersAll [] items ∨
                  ∃ c, Item.LastMarked items c ∧ c.path = p.1 ∧
                    c.place? (.ofItems items) .ignored = some p.2 := by
  have h : ((Tree.read troubledModule).toOption.any fun item ↦
      (moduleToExpand [] item).isOk) = true := by
    decide +kernel
  cases hr : Tree.read troubledModule with
  | error p => rw [hr] at h; cases h
  | ok item =>
    rw [hr] at h
    dsimp only [Except.toOption, Option.any_some] at h
    rcases hm : moduleToExpand [] item with d | ⟨head, items⟩
    · rw [hm] at h; cases h
    · exact ⟨item, head, items, rfl, hm, expandModule_outcome hm⟩

/-- A raw name stops the expansion of a module that has another marked struct, and so does a library
called `try`.  Of two structs of one name the first, whose own expansion is code, is lost if the
second fails. -/
theorem expandModule_raw_name_and_same_name :
    ["mod m \x7b #[guid_id] struct r#type; #[guid_id] struct Fine; \x7d",
     "mod m \x7b #[guid_id(crate = \"try\")] struct A; #[guid_id] struct Fine; \x7d"].map
      (fun text ↦ (Tree.read text).toOption.bind fun item ↦
        (moduleToExpand [] item).toOption.map fun (_, items) ↦
          ((Item.structsAll [] items).length,
            match expandModule [] item .ignored with
            | .error n => some n
            | .ok _ => none)) =
      [some (2, some (.generated "r#typeConverter")),
       some (2, some (.type (.wanted Grammar.typeStarts false)))] ∧
    ((Tree.read "mod m \x7b #[guid_id] struct A; #[guid_id(x)] struct A; \x7d").toOption.bind
      fun item ↦ (moduleToExpand [] item).toOption.bind fun (_, items) ↦
        (Item.structsAll [] items).head?.bind fun c ↦
          (c.expand (.ofItems items) .ignored).toOption.bind fun (e, _) ↦
            (expandItems items .ignored).toOption.map fun (items', _) ↦
              match e with
              | .code code => decide (([], code) ∈ Item.othersAll [] items')
              | _ => true) = some false := by
  decide +kernel

end TypedIds
