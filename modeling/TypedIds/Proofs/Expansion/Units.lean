import TypedIds.Proofs.Expansion.Independence
import TypedIds.Proofs.Naming.UnitKey

/-!
# Units of a module tree

What the files hold after all candidates of a module tree have been expanded: in each, the code of
the last unit that has its name (`expandCandidates_file?`).  One step writes one file at most and
leaves the others as they are; the rest is an induction on the candidates.

Units have one file only if their declarations agree in path, name and kind, since the name of the
file is the key of the unit.  So **no unit is lost unless a later declaration repeats all three**
(`unitKey_injective`).
-/

set_option autoImplicit false

namespace TypedIds

namespace Units

/-- What the file of a name holds. -/
def file? (us : Units) (name : String) : Option Code := us.files.lookup name

theorem lookup_cons_ite (f : String × Code) (files : List (String × Code)) (n : String) :
    (f :: files).lookup n = if n = f.1 then some f.2 else files.lookup n := by
  obtain ⟨m, c⟩ := f
  by_cases h : n = m
  · rw [if_pos h, h, List.lookup_cons_self]
  · rw [if_neg h, List.lookup_cons, beq_false_of_ne h]

theorem lookup_put {name : String} {code : Code} {files : List (String × Code)} {n : String} :
    (put name code files).lookup n = if n = name then some code else files.lookup n := by
  induction files with
  | nil => exact lookup_cons_ite (name, code) [] n
  | cons f files ih =>
    rw [put]
    by_cases hf : f.1 = name
    · rw [if_pos hf, lookup_cons_ite, lookup_cons_ite, hf]
      split <;> rfl
    · rw [if_neg hf, lookup_cons_ite, lookup_cons_ite, ih]
      by_cases h : n = f.1
      · rw [if_pos h, if_pos h, if_neg (h ▸ hf)]
      · rw [if_neg h, if_neg h]

/-- The files after some units have been written, one after the other. -/
def putAll (us : List GeneratedUnit) (files : List (String × Code)) : List (String × Code) :=
  us.foldl (fun fs u ↦ put u.fileName u.code fs) files

/-- A file holds the code of the last unit that has its name. -/
theorem lookup_putAll (us : List GeneratedUnit) (files : List (String × Code)) (n : String) :
    (putAll us files).lookup n =
      ((us.filter (·.fileName = n)).getLast?.map GeneratedUnit.code).or (files.lookup n) := by
  induction us generalizing files with
  | nil => rfl
  | cons u us ih =>
    rw [putAll, List.foldl_cons, ← putAll, ih, lookup_put]
    by_cases h : u.fileName = n
    · rw [if_pos h.symm, List.filter_cons_of_pos (by simpa using h), List.getLast?_cons]
      cases (us.filter (·.fileName = n)).getLast? <;> rfl
    · rw [if_neg (Ne.symm h), List.filter_cons_of_neg (by simpa using h)]

end Units

theorem key_of_unit {d : Declaration} {path : List String} {u : GeneratedUnit}
    (h : d.unit path = .ok u) : u.key = unitKey path d.name d.kind := by
  rw [Declaration.unit] at h
  cases hcode : d.code with
  | error n => rw [hcode] at h; cases h
  | ok code => rw [hcode] at h; cases h; rfl

/-! ## Expanding candidates -/

namespace Candidate

variable {x : Index} {us : Units} {c : Candidate} {e : Expansion} {files : List (String × Code)}

/-- The unit of a candidate that can be expanded. -/
def unit? (x : Index) (c : Candidate) : Option GeneratedUnit :=
  match c.declaration? x with
  | .ok (.ok (some d)) => (d.unit c.path).toOption
  | _ => none

/-- The unit of a candidate that is written to a directory: one whose name is not too long. -/
def written? (x : Index) (c : Candidate) : Option GeneratedUnit :=
  (c.unit? x).filter fun u ↦ u.fileName.utf8ByteSize ≤ Units.mostBytes

theorem unit?_eq_some_iff {u : GeneratedUnit} :
    c.unit? x = some u ↔ ∃ d, c.declaration? x = .ok (.ok (some d)) ∧ d.unit c.path = .ok u := by
  rw [unit?]
  rcases c.declaration? x with n | e | _ | d
  · simp
  · simp
  · simp
  · cases hu : d.unit c.path <;> simp [Except.toOption, hu]

/-- An expansion writes the unit of the candidate and leaves the other files as they are. -/
theorem expand_directory (h : c.expand x (.directory files) = .ok (e, us)) :
    us = .directory (Units.putAll (c.written? x).toList files) := by
  rw [expand_eq] at h
  split at h
  next => cases h
  next hd =>
    cases h
    rw [written?, unit?, hd]
    rfl
  next hd =>
    cases h
    rw [written?, unit?, hd]
    rfl
  next d hd =>
    split at h
    next => cases h
    next u hu =>
      rw [written?, unit?_eq_some_iff.2 ⟨d, hd, hu⟩, Option.filter_some]
      dsimp only [Units.obstacle?] at h
      by_cases hlength : u.fileName.utf8ByteSize ≤ Units.mostBytes
      · rw [if_neg (Nat.not_lt.2 hlength)] at h
        cases h
        rw [if_pos (decide_eq_true hlength)]
        rfl
      · rw [if_pos (Nat.not_le.1 hlength)] at h
        cases h
        rw [if_neg (by simpa using hlength)]
        rfl

/-- A declaration has the name of its struct. -/
theorem name_of_declaration? {d : Declaration} (h : c.declaration? x = .ok (.ok (some d))) :
    d.name = c.item.name := by
  obtain ⟨t, m, ⟨hsaid, -⟩, hd⟩ := declaration?_eq_some_iff.mp h
  obtain ⟨-, hitem, -⟩ := Declaration.kind_item_of_ofMarked hd
  rw [Declaration.name, hitem, hsaid.name_path.1]

/-- The names of a candidate and of the modules around it are identifiers. -/
def IsNamed (c : Candidate) : Prop := (∀ m ∈ c.path, IsIdentifier m) ∧ IsIdentifier c.item.name

/-- Units of one file are those of one path, name and kind. -/
theorem fileName_inj {c' : Candidate} {d d' : Declaration} {u u' : GeneratedUnit}
    (hc : c.IsNamed) (hc' : c'.IsNamed) (hd : c.declaration? x = .ok (.ok (some d)))
    (hd' : c'.declaration? x = .ok (.ok (some d'))) (hu : d.unit c.path = .ok u)
    (hu' : d'.unit c'.path = .ok u') :
    u.fileName = u'.fileName ↔ c.path = c'.path ∧ d.name = d'.name ∧ d.kind = d'.kind := by
  obtain ⟨hpath, hname⟩ := hc
  obtain ⟨hpath', hname'⟩ := hc'
  rw [← name_of_declaration? hd] at hname
  rw [← name_of_declaration? hd'] at hname'
  rw [GeneratedUnit.fileName, GeneratedUnit.fileName, String.append_left_inj, key_of_unit hu,
    key_of_unit hu', unitKey_inj hpath hname hpath' hname']

end Candidate

/-- **All candidates write their units, one after the other.** -/
theorem expandCandidates_directory {x : Index} {cs : List Candidate} {r r' : Replacements}
    {files : List (String × Code)} {us : Units}
    (h : expandCandidates x cs r (.directory files) = .ok (r', us)) :
    us = .directory (Units.putAll (cs.filterMap (Candidate.written? x)) files) := by
  induction cs generalizing r files with
  | nil => cases h; rfl
  | cons c cs ih =>
    rw [expandCandidates] at h
    cases he : c.expand x (.directory files) with
    | error n => rw [he] at h; cases h
    | ok p =>
      obtain ⟨e, us₁⟩ := p
      rw [he] at h
      obtain rfl := Candidate.expand_directory he
      rw [ih h, List.filterMap_cons]
      cases c.written? x <;> rfl

/-- What the files hold after a module has been expanded. -/
theorem expandItems_file? {items items' : List Item} {files : List (String × Code)} {us : Units}
    (h : expandItems items (.directory files) = .ok (items', us)) (name : String) :
    us.file? name =
      ((((Item.candidatesAll [] items).filterMap (Candidate.written? (.ofItems items))).filter
        (·.fileName = name)).getLast?.map GeneratedUnit.code).or (files.lookup name) := by
  rw [expandItems] at h
  obtain ⟨⟨r, us'⟩, hrun, h⟩ := exists_of_bind_eq_ok h
  cases h
  rw [expandCandidates_directory hrun]
  exact Units.lookup_putAll _ _ _

/-- **Units do not collide**: their keys tell the path, the name and the kind.  So the file of a
declaration in a module tree holds its code in the end, unless a later declaration repeats all
three. -/
theorem unitKey_injective :
    (∀ path path' name name' kind kind',
      (∀ m ∈ path, IsIdentifier m) → IsIdentifier name →
      (∀ m ∈ path', IsIdentifier m) → IsIdentifier name' →
      unitKey path name kind = unitKey path' name' kind' →
        path = path' ∧ name = name' ∧ kind = kind') ∧
    ∀ items files items' us before c after d u,
      (∀ c ∈ Item.candidatesAll [] items, c.IsNamed) →
      expandItems items (.directory files) = .ok (items', us) →
      Item.candidatesAll [] items = before ++ c :: after →
      c.declaration? (.ofItems items) = .ok (.ok (some d)) → d.unit c.path = .ok u →
      u.fileName.utf8ByteSize ≤ Units.mostBytes →
      (∀ c' ∈ after, ∀ d', c'.declaration? (.ofItems items) = .ok (.ok (some d')) →
        c'.path = c.path → d'.name = d.name → d'.kind ≠ d.kind) →
        us.file? u.fileName = some u.code := by
  refine ⟨fun path path' name name' kind kind' hpath hname hpath' hname' h ↦
    (unitKey_inj hpath hname hpath' hname').1 h, ?_⟩
  intro items files items' us before c after d u hnamed hrun hcs hd hu hlength hlater
  rw [hcs] at hnamed
  have hwritten : c.written? (.ofItems items) = some u := by
    rw [Candidate.written?, Candidate.unit?_eq_some_iff.2 ⟨d, hd, hu⟩, Option.filter_some,
      if_pos (decide_eq_true hlength)]
  -- No later unit has the same file.
  have hnone : (after.filterMap (Candidate.written? (.ofItems items))).filter
      (·.fileName = u.fileName) = [] := by
    rw [List.filter_eq_nil_iff]
    intro u' hu' hfile
    obtain ⟨c', hc', hwritten'⟩ := List.mem_filterMap.1 hu'
    obtain ⟨d', hd', hu'⟩ := Candidate.unit?_eq_some_iff.1 (Option.filter_eq_some_iff.1 hwritten').1
    have hmem : c' ∈ before ++ c :: after :=
      List.mem_append_right _ (List.mem_cons_of_mem _ hc')
    have hc : c ∈ before ++ c :: after := List.mem_append_right _ List.mem_cons_self
    obtain ⟨hpath, hname, hkind⟩ := (Candidate.fileName_inj (hnamed c' hmem) (hnamed c hc)
      hd' hd hu' hu).1 (of_decide_eq_true hfile)
    exact hlater c' hc' d' hd' hpath hname hkind
  rw [expandItems_file? hrun, hcs, List.filterMap_append, List.filterMap_cons_some hwritten,
    List.filter_append, List.filter_cons_of_pos (by simp), hnone, List.getLast?_concat]
  rfl

/-- A struct of `keyedTree`. -/
def keyedCandidate (name : String) (kind : MarkerKind) : Candidate :=
  { bareCandidate name [(kind, [])] with path := ["r#mod"] }

/-- A module with an identifier whose name ends like the key of another one. -/
def keyedTree : List Item :=
  [.module ⟨[.word "mod"], "r#mod", []⟩
    [.struct (keyedCandidate "Order_GuidId" .string).item,
     .struct (keyedCandidate "Order" .guid).item]]

theorem file?_keyedTree :
    let c := keyedCandidate "Order_GuidId" .string
    let c' := keyedCandidate "Order" .guid
    let x := Index.ofItems keyedTree
    unitKey c.path c.item.name .string ≠ unitKey c'.path c'.item.name .guid ∧
      Item.candidatesAll [] keyedTree = [] ++ c :: [c'] ∧
      (∀ c ∈ Item.candidatesAll [] keyedTree, c.IsNamed) ∧
      ∃ items' us d u, expandItems keyedTree (.directory []) = .ok (items', us) ∧
        c.declaration? x = .ok (.ok (some d)) ∧ d.unit c.path = .ok u ∧
        u.fileName.utf8ByteSize ≤ Units.mostBytes ∧
        (∀ c'' ∈ [c'], ∀ d', c''.declaration? x = .ok (.ok (some d')) →
          c''.path = c.path → d'.name = d.name → d'.kind ≠ d.kind) ∧
        us.file? u.fileName = some u.code := by
  intro c c' x
  obtain ⟨hkeys, hfile⟩ := unitKey_injective
  have hcandidates : Item.candidatesAll [] keyedTree = [] ++ c :: [c'] := rfl
  have hpath : ∀ m ∈ ["r#mod"], IsIdentifier m := by decide
  have hname : IsIdentifier c.item.name := by decide
  have hname' : IsIdentifier c'.item.name := by decide
  have hnamed : ∀ c ∈ Item.candidatesAll [] keyedTree, c.IsNamed := by
    rw [hcandidates]
    exact List.forall_mem_cons.2 ⟨⟨hpath, hname⟩, List.forall_mem_singleton.2 ⟨hpath, hname'⟩⟩
  have hkey : unitKey c.path c.item.name .string ≠ unitKey c'.path c'.item.name .guid := by
    intro h
    have hsame := hkeys _ _ _ _ _ _ hpath hname hpath hname' h
    exact absurd hsame.2.2 (by decide)
  have hrun : (expandItems keyedTree (.directory [])).isOk = true := by decide +kernel
  have hwritten : (c.written? x).isSome = true := by decide +kernel
  obtain ⟨u, hu⟩ := Option.isSome_iff_exists.1 hwritten
  obtain ⟨hunit, hlength⟩ := Option.filter_eq_some_iff.1 hu
  obtain ⟨d, hd, hu⟩ := Candidate.unit?_eq_some_iff.1 hunit
  have hlater : ∀ c'' ∈ [c'], ∀ d', c''.declaration? x = .ok (.ok (some d')) →
      c''.path = c.path → d'.name = d.name → d'.kind ≠ d.kind := by
    rintro c'' hc'' d' hd' - hsame
    rw [Candidate.name_of_declaration? hd', Candidate.name_of_declaration? hd,
      List.mem_singleton.1 hc''] at hsame
    exact absurd hsame (by decide)
  cases hitems : expandItems keyedTree (.directory []) with
  | error n => rw [hitems] at hrun; cases hrun
  | ok p =>
    obtain ⟨items', us⟩ := p
    exact ⟨hkey, hcandidates, hnamed, items', us, d, u, rfl, hd, hu, of_decide_eq_true hlength,
      hlater, hfile _ _ _ _ _ _ _ _ _ hnamed hitems hcandidates hd hu
        (of_decide_eq_true hlength) hlater⟩

end TypedIds
