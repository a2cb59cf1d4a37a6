import Mathlib.Data.List.Forall2
import TypedIds.Expansion.Module
import TypedIds.Proofs.Expansion.Outcome
import TypedIds.Proofs.Marker.Property

/-!
# Accepted declarations

`Declaration.Accepted` is said of the declarations that code is made of, on both ways to one: that
of a marker which is expanded alone, and that of a marked struct in a module.  Both ways end alike
(`Declaration.Accepted.exists_ofMarked`), and what each stage on them says of the declaration is
read off that end.
-/

set_option autoImplicit false

namespace TypedIds

/-! ## What declarations are made of -/

/-- Values are inferred one for each component, in order. -/
theorem ComponentDefault.inferAll_eq_ok_iff {x : Index} {cs : List Component}
    {vs : List ComponentDefault} :
    inferAll x cs = .ok vs ↔ List.Forall₂ (fun c v ↦ infer x c = .ok v) cs vs := by
  induction cs generalizing vs with
  | nil => simp [inferAll, pure, Except.pure, eq_comm]
  | cons c cs ih =>
    rw [inferAll, List.mapM_cons, List.forall₂_cons_left_iff]
    constructor
    · intro h
      obtain ⟨v, hv, h⟩ := exists_of_bind_eq_ok h
      obtain ⟨vs, hvs, h⟩ := exists_of_bind_eq_ok h
      cases h
      exact ⟨v, vs, hv, ih.1 hvs, rfl⟩
    · rintro ⟨v, vs, hv, hvs, rfl⟩
      have hvs : cs.mapM (infer x) = .ok vs := ih.2 hvs
      simp only [hv, hvs, bind, Except.bind, pure, Except.pure]

theorem Segment.codeFront_concat (front : List Segment) (s : Segment) :
    Segment.codeFront (front ++ [s]) = Segment.codeFront front ++ s.code ++ Code.pathSep := by
  induction front with
  | nil => simp [Segment.codeFront]
  | cons t front ih => simp [Segment.codeFront, ih]

/-- What is written for a name inside of what a path names. -/
theorem Path.code_child (p : Path) (name : String) :
    (p.child name).code = Generated.within p.code [name] := by
  simp [Path.code, Path.child, Path.toTy, Path.segments, Ty.code, Segment.codeFront_concat,
    Segment.code, Args.code, Generated.within, Generated.absolute, Code.pathSep]

/-! ## Accepted declarations -/

namespace Declaration

/-- The declaration `d` is made of the marked struct `s`, and code is made of it.  The index is what
is known of the module around the struct: nothing, if its marker is expanded alone. -/
inductive Accepted : Index → Struct → Declaration → Prop where
  /-- A marker with its arguments, on an item that is read as the struct. -/
  | marker {kind : MarkerKind} {args item : List Tree} {s : Struct} {d : Declaration}
    (hitem : Grammar.item.run .nowhere item = .ok (.struct s))
    (hd : markedItem kind args (.struct s) (Tree.spanAll item) = .ok (.ok d)) : Accepted .empty s d
  /-- A candidate in a module tree. -/
  | candidate {args item : List Tree} {head : ModuleHead} {items : List Item} {c : Candidate}
    {d : Declaration} (hmodule : moduleToExpand args item = .ok (head, items))
    (hc : c ∈ Item.candidatesAll [] items)
    (hd : c.declaration? (.ofItems items) = .ok (.ok (some d))) : Accepted (.ofItems items) c.item d

theorem code_of_unit {d : Declaration} {path : List String} {u : GeneratedUnit}
    (h : d.unit path = .ok u) : d.code = .ok u.code := by
  rw [unit] at h
  cases hcode : d.code with
  | error n =>
    rw [hcode] at h
    cases h
  | ok code =>
    rw [hcode] at h
    cases h
    rfl

/-- The code that a marker alone becomes is that of an accepted declaration. -/
theorem exists_accepted_of_expandMarker {kind : MarkerKind} {args item : List Tree} {us us' : Units}
    {code : Code} (h : expandMarker kind args item us = .ok (.ok code, us')) :
    ∃ s d, Accepted .empty s d ∧ d.code = .ok code := by
  rw [expandMarker_eq] at h
  split at h
  · cases h
  · cases h
  next d hd =>
    obtain ⟨s, hitem, hd⟩ := markedDeclaration_eq_ok_iff.mp hd
    split at h
    · cases h
    next u hu =>
      split at h <;> cases h
      exact ⟨s, d, .marker hitem hd, code_of_unit hu⟩

/-- The code that a candidate becomes is that of an accepted declaration. -/
theorem exists_accepted_of_expand {args item : List Tree} {head : ModuleHead} {items : List Item}
    {c : Candidate} {us us' : Units} {code : Code}
    (hmodule : moduleToExpand args item = .ok (head, items)) (hc : c ∈ Item.candidatesAll [] items)
    (h : c.expand (.ofItems items) us = .ok (.code code, us')) :
    ∃ d, Accepted (.ofItems items) c.item d ∧ d.code = .ok code := by
  rw [Candidate.expand_eq] at h
  split at h
  · cases h
  · cases h
  · cases h
  next d hd =>
    split at h
    · cases h
    next u hu =>
      split at h <;> cases h
      exact ⟨d, .candidate hmodule hc hd, code_of_unit hu⟩

/-- Whether some candidate of a module that is given as a text is declared as one asks for. -/
def declares (text : String) (p : Candidate → Declaration → Bool) : Bool :=
  (Tree.read text).toOption.any fun item ↦
    (moduleToExpand [] item).toOption.any fun m ↦
      (Item.candidatesAll [] m.2).any fun c ↦
        (c.declaration? (.ofItems m.2)).toOption.any fun r ↦
          r.toOption.any fun d? ↦ d?.any (p c)

theorem exists_of_declares {text : String} {p : Candidate → Declaration → Bool}
    (h : declares text p = true) :
    ∃ item head items c d, Tree.read text = .ok item ∧ moduleToExpand [] item = .ok (head, items) ∧
      c ∈ Item.candidatesAll [] items ∧ c.declaration? (.ofItems items) = .ok (.ok (some d)) ∧
        p c d = true := by
  obtain ⟨item, hitem, h⟩ := exists_of_any_toOption h
  obtain ⟨⟨head, items⟩, hmodule, h⟩ := exists_of_any_toOption h
  obtain ⟨c, hc, h⟩ := List.any_eq_true.mp h
  obtain ⟨r, hd, h⟩ := exists_of_any_toOption h
  obtain ⟨d?, hr, h⟩ := exists_of_any_toOption h
  obtain ⟨d, hd?, hp⟩ := (Option.any_eq_true _ _).mp h
  rw [hr, hd?] at hd
  exact ⟨item, head, items, c, d, hitem, hmodule, hc, hd, hp⟩

variable {x : Index} {s : Struct} {d : Declaration}

/-- Both ways end alike: some arguments have been read, and a declaration is made of them and of the
struct without its markers. -/
theorem Accepted.exists_ofMarked (h : Accepted x s d) :
    ∃ args span m path, MarkerArgs.read d.kind args span = .ok m ∧
      ofMarked d.kind s.withoutMarkers m x path = .ok d := by
  cases h with
  | @marker kind args item s d hitem hd =>
    obtain ⟨_, m, hs, hmarkers, ⟨hm, htyped⟩, hd⟩ := markedItem_eq_ok_iff.mp hd
    cases hs
    obtain ⟨rfl, -, -⟩ := kind_item_of_ofMarked hd
    rw [Struct.withoutMarkers_eq_self hmarkers]
    exact ⟨args, .nowhere, m, [], hm, hd⟩
  | @candidate args item head items c d hmodule hc hd =>
    obtain ⟨t, m, ⟨⟨ht, args, -, hm⟩, htyped⟩, hd⟩ := Candidate.declaration?_eq_some_iff.mp hd
    obtain ⟨-, hitem, -⟩ := Struct.resolve_eq_some ht
    obtain ⟨hkind, -, -⟩ := kind_item_of_ofMarked hd
    rw [← hitem, hkind]
    exact ⟨args, t.marker.span, m, t.path, hm, hd⟩

/-- What a declaration is made of, its kind and its struct apart. -/
theorem parts_of_ofMarked {kind : MarkerKind} {m : MarkerArgs} {path : List String}
    (h : ofMarked kind s m x path = .ok d) :
    d.components = m.components ∧ d.options = m.options ∧
      d.hook = Hook.detect x path s.name kind m.components m.options.check ∧
      if kind.isScalar then d.defaults = []
      else ComponentDefault.inferAll x m.components = .ok d.defaults := by
  rw [ofMarked] at h
  obtain ⟨⟨⟩, -, h⟩ := exists_of_bind_eq_ok h
  dsimp only at h
  split at h
  next hk =>
    cases h
    rw [if_pos hk]
    exact ⟨rfl, rfl, rfl, rfl⟩
  next hk =>
    obtain ⟨vs, hvs, h⟩ := exists_of_bind_eq_ok h
    cases h
    rw [if_neg hk]
    exact ⟨rfl, rfl, rfl, hvs⟩

/-! ## What each stage says of an accepted declaration -/

theorem Accepted.item_eq (h : Accepted x s d) : d.item = s.withoutMarkers := by
  obtain ⟨_, _, _, _, -, hd⟩ := h.exists_ofMarked
  exact (kind_item_of_ofMarked hd).2.1

theorem Accepted.exists_check (h : Accepted x s d) :
    ∃ span, Validity.check d.kind d.item ⟨d.components, d.options, span⟩ = .ok () := by
  obtain ⟨_, _, m, _, -, hd⟩ := h.exists_ofMarked
  obtain ⟨-, hitem, hcheck⟩ := kind_item_of_ofMarked hd
  obtain ⟨hcomponents, hoptions, -, -⟩ := parts_of_ofMarked hd
  rw [hitem, hcomponents, hoptions]
  exact ⟨m.span, hcheck⟩

theorem Accepted.components_eq (h : Accepted x s d) (hk : d.kind.isScalar = true) :
    d.components = [scalarComponent d.kind d.options] := by
  obtain ⟨_, _, m, _, hread, hd⟩ := h.exists_ofMarked
  obtain ⟨e, -, hoptions, hcomponents⟩ := MarkerArgs.read_ok hread
  rw [if_pos hk, ← hoptions] at hcomponents
  rw [(parts_of_ofMarked hd).1, (parts_of_ofMarked hd).2.1, hcomponents]

theorem Accepted.types_guid (h : Accepted x s d) (hk : d.kind = .guid) :
    d.types.map Ty.code = [Generated.within d.options.crate.code ["Uuid"]] := by
  rw [types, h.components_eq (by rw [hk]; rfl), hk]
  exact congrArg ([·]) (Path.code_child d.options.crate "Uuid")

theorem Accepted.types_string (h : Accepted x s d) (hk : d.kind = .string) :
    d.types.map Ty.code = [Generated.absolute ["std", "string", "String"]] := by
  rw [types, h.components_eq (by rw [hk]; rfl), hk]
  rfl

theorem Accepted.defaults_eq (h : Accepted x s d) (hk : d.kind.isScalar = true) :
    d.defaults = [] := by
  obtain ⟨_, _, _, _, -, hd⟩ := h.exists_ofMarked
  obtain ⟨-, -, -, hdefaults⟩ := parts_of_ofMarked hd
  rwa [if_pos hk] at hdefaults

theorem Accepted.forall₂_infer (h : Accepted x s d) (hk : d.kind = .combined) :
    List.Forall₂ (fun c v ↦ ComponentDefault.infer x c = .ok v) d.components d.defaults := by
  obtain ⟨_, _, _, _, -, hd⟩ := h.exists_ofMarked
  obtain ⟨hcomponents, -, -, hdefaults⟩ := parts_of_ofMarked hd
  rw [hk, if_neg (by decide), ComponentDefault.inferAll_eq_ok_iff] at hdefaults
  rwa [hcomponents]

theorem Accepted.hook_eq (h : Accepted x s d) {f : String} (hf : d.options.check = some f) :
    d.hook = some ⟨f, .resultValue⟩ := by
  obtain ⟨_, _, _, _, -, hd⟩ := h.exists_ofMarked
  obtain ⟨-, hoptions, hhook, -⟩ := parts_of_ofMarked hd
  rw [hhook, ← hoptions, hf]
  rfl

end Declaration

end TypedIds
