import TypedIds.Proofs.Declaration.Crate
import TypedIds.Proofs.Expansion.Forms
import TypedIds.Proofs.Marker.Partition

/-!
# Expanding with another library

A declaration is given in one of two forms, from outside of the struct or in a module
(`DeclarationForm`).  Two inputs are the same but for the library if the marker says that it is at
one path in the first and at another path in the second, and nothing else differs.

* `DeclarationForm.SameButCrate.declaration?` — the declarations are the same but for the path, so
  nothing that is checked, found or inferred depends on it.
* **`DeclarationForm.SameButCrate.path_replaced`**: both inputs are expanded, or neither is, and if
  the second path is a word, the code of the first is that of the second with the first path in the
  place of the word.

For UUIDs, types have to begin with the paths (`Path.Serves`): from a path with which none begins,
no declaration is read at all.

The word must not be one that generated code has anyway, such as `core`.  It is enough that it does
not stand in the code for some third path, and for that it is enough that it is `Generated.Foreign`
and no word of the declaration.
-/

set_option autoImplicit false

namespace TypedIds

/-! ## Structs that name another library -/

/-- The struct has the same attributes, but for the arguments of one marker of this kind. -/
inductive Struct.SameButCrate (kind : MarkerKind) (p q : Path) : Struct → Struct → Prop
  | marker {s : Struct} {front back : List Attribute} {a a' : Attribute} {args args' : List Tree}
      (ha : a.markerKind? = some kind) (ha' : a'.markerKind? = some kind)
      (hargs : a.markerArguments = .ok args) (hargs' : a'.markerArguments = .ok args')
      (h : MarkerArgs.SameButCrate p q args args') :
      SameButCrate kind p q (s.insert front a back) (s.insert front a' back)

theorem Struct.SameButCrate.symm {kind : MarkerKind} {p q : Path} {s s' : Struct}
    (h : SameButCrate kind p q s s') : SameButCrate kind q p s' s := by
  cases h with
  | marker ha ha' hargs hargs' h => exact .marker ha' ha hargs' hargs h.symm

/-- The items of two modules are the same but for one struct, which lies in the module at `path`
inside of them. -/
inductive Item.SameButStruct (s s' : Struct) : (path : List String) → List Item → List Item → Prop
  | here (is : List Item) : SameButStruct s s' [] (.struct s :: is) (.struct s' :: is)
  | later {path : List String} {is is' : List Item} (i : Item)
      (h : SameButStruct s s' path is is') : SameButStruct s s' path (i :: is) (i :: is')
  | inside {path : List String} {is is' : List Item} (head : ModuleHead) (more : List Item)
      (h : SameButStruct s s' path is is') :
      SameButStruct s s' (head.name :: path) (.module head is :: more) (.module head is' :: more)

theorem Item.SameButStruct.symm {s s' : Struct} {path : List String} {is is' : List Item}
    (h : SameButStruct s s' path is is') : SameButStruct s' s path is' is := by
  induction h with
  | here is => exact .here is
  | later i _ ih => exact .later i ih
  | inside head more _ ih => exact .inside head more ih

/-- The index knows of a struct its name, if it is marked, and nothing else. -/
theorem Item.SameButStruct.ofItems_eq {s s' : Struct} {path : List String} {is is' : List Item}
    (h : SameButStruct s s' path is is')
    (hs : (Item.struct s).marked = (Item.struct s').marked) :
    Index.ofItems is = Index.ofItems is' := by
  have hblocks (front : List String) : Item.blocksAll front is = Item.blocksAll front is' := by
    induction h generalizing front with
    | here is => rfl
    | later i _ ih => rw [Item.blocksAll, Item.blocksAll, ih]
    | inside head more _ ih => simp only [Item.blocksAll, Item.blocks, ih]
  have hmarked : Item.markedAll is = Item.markedAll is' := by
    clear hblocks
    induction h with
    | here is => rw [Item.markedAll, Item.markedAll, hs]
    | later i _ ih => rw [Item.markedAll, Item.markedAll, ih]
    | inside head more _ ih => simp only [Item.markedAll, Item.marked, ih]
  rw [Index.ofItems, Index.ofItems, hmarked, hblocks]

theorem Struct.SameButCrate.marked_eq {kind : MarkerKind} {p q : Path} {s s' : Struct}
    (h : SameButCrate kind p q s s') : (Item.struct s).marked = (Item.struct s').marked := by
  cases h with
  | marker ha ha' _ _ _ => simp [Item.marked, Struct.insert, Attribute.isMarker, ha, ha']

/-- Two markers on one struct are an error. -/
theorem Struct.exists_resolve_insert_eq_error {s : Struct} {front back : List Attribute}
    {a : Attribute} {kind : MarkerKind} (ha : a.markerKind? = some kind)
    (hmore : ({ s with attributes := front ++ back } : Struct).markers ≠ []) (path : List String) :
    ∃ d, (s.insert front a back).resolve path = .error d := by
  have hcount : (s.insert front a back).attributes.countP (·.isMarker) =
      (front ++ back).countP (·.isMarker) + 1 :=
    (List.perm_middle.countP_eq _).trans
      (List.countP_cons_of_pos (Attribute.isMarker_of_markerKind? ha))
  have hother : 0 < (front ++ back).countP (·.isMarker) := by
    have hlength := List.length_pos_iff.mpr hmore
    rwa [length_markers] at hlength
  rw [exists_resolve_eq_error_iff, hcount]
  omega

/-! ## Declarations -/

theorem Declaration.toOption_ofMarked_span (kind : MarkerKind) (s : Struct) (m : MarkerArgs)
    (x : Index) (path : List String) (span : Span) :
    (ofMarked kind s { m with span } x path).toOption = (ofMarked kind s m x path).toOption := by
  have hmap (e : Except Diagnostic Declaration) :
      (e.mapError Diagnostic.problem).toOption = e.toOption := by
    cases e <;> rfl
  rw [← hmap, ofMarked_span, hmap]

/-- The declarations that are made of a struct are the same but for the path. -/
theorem MarkerArgs.SameButCrate.ofMarked {p q : Path} {args args' : List Tree}
    (h : SameButCrate p q args args') (kind : MarkerKind) (s : Struct) (x : Index)
    (path : List String) (span span' : Span) :
    ((MarkerArgs.read kind args span).bind (Declaration.ofMarked kind s · x path)).toOption =
      ((MarkerArgs.read kind args' span').bind
        (Declaration.ofMarked kind s · x path)).toOption.map (Declaration.withCrate · p) := by
  have hread := h.read kind .nowhere
  rw [read_span kind args span, read_span kind args' span']
  cases hm : MarkerArgs.read kind args' .nowhere with
  | error d =>
    cases hm' : MarkerArgs.read kind args .nowhere with
    | error d' => rfl
    | ok m => rw [hm, hm'] at hread; cases hread
  | ok m =>
    rw [h.read_eq_ok hm]
    refine (Declaration.toOption_ofMarked_span ..).trans ?_
    rw [Declaration.ofMarked_withCrate (components_of_read hm)]
    refine Eq.trans ?_ (congrArg _ (Declaration.toOption_ofMarked_span ..).symm)
    cases Declaration.ofMarked kind s m x path <;> rfl

/-- What has been accepted, if nothing is reported and nothing stops. -/
def accepted? {α : Type} (r : Except NotAName (Except Diagnostic α)) : Option α :=
  r.toOption.bind Except.toOption

theorem MarkerArgs.SameButCrate.markedItem {kind : MarkerKind} {p q : Path}
    {args args' : List Tree} (h : SameButCrate p q args args') (hp : p.Serves kind)
    (hq : q.Serves kind) (s : Struct) (span : Span) :
    accepted? (markedItem kind args (.struct s) span) =
      (accepted? (markedItem kind args' (.struct s) span)).map (Declaration.withCrate · p) := by
  by_cases hs : s.markers = []
  · rw [markedItem_of_markers_eq_nil hs, markedItem_of_markers_eq_nil hs, h.parse_eq hp,
      h.symm.parse_eq hq]
    exact h.ofMarked kind s .empty [] .nowhere .nowhere
  · obtain ⟨d, hd⟩ := exists_markedItem_eq_report hs kind args span
    obtain ⟨d', hd'⟩ := exists_markedItem_eq_report hs kind args' span
    rw [hd, hd']
    rfl

theorem Struct.SameButCrate.declaration? {kind : MarkerKind} {p q : Path} {s s' : Struct}
    (h : SameButCrate kind p q s s') (hp : p.Serves kind) (hq : q.Serves kind)
    (path : List String) (x : Index) :
    (accepted? (Candidate.declaration? ⟨s, path⟩ x)).join =
      (accepted? (Candidate.declaration? ⟨s', path⟩ x)).join.map (Declaration.withCrate · p) := by
  cases h with
  | @marker s front back a a' args args' ha ha' hargs hargs' h =>
    let base : Struct := { s with attributes := front ++ back }
    have hjoin (e : Except Diagnostic Declaration) :
        (accepted? (.ok (e.map some))).join = e.toOption := by
      cases e <;> rfl
    by_cases hmore : base.markers = []
    · have hresolve {a : Attribute} (ha : a.markerKind? = some kind) :
          (s.insert front a back).resolve path = .ok (some ⟨kind, a, base, path⟩) :=
        base.resolve_insert hmore rfl ha path
      rw [Candidate.declaration?_of_resolve (hresolve ha),
        Candidate.declaration?_of_resolve (hresolve ha')]
      simp only [Target.arguments, hargs, hargs', h.parse_eq hp, h.symm.parse_eq hq, Except.map]
      refine (hjoin _).trans ((h.ofMarked kind base x path a.span a'.span).trans ?_)
      exact congrArg _ (hjoin _).symm
    · obtain ⟨d, hd⟩ := exists_resolve_insert_eq_error ha hmore path
      obtain ⟨d', hd'⟩ := exists_resolve_insert_eq_error ha' hmore path
      rw [Candidate.declaration?_eq, Candidate.reading?, hd, Candidate.declaration?_eq,
        Candidate.reading?, hd']
      rfl

/-! ## Code -/

/-- The code that an expansion yields, if it yields some. -/
def Expansion.code? : Expansion → Option Code
  | .code c => some c
  | _ => none

/-- The code of a declaration in the module at `path`, if there is some and its unit can be
written. -/
def Declaration.emitted? (us : Units) (path : List String) (d : Declaration) : Option Code :=
  if (us.obstacle? ⟨unitKey path d.name d.kind, []⟩).isSome then none else d.code.toOption

namespace Declaration

variable (d : Declaration) (us : Units) (path : List String)

/-- What is written of a unit is its code; whether it can be written is told by its key. -/
theorem emitted?_eq :
    d.emitted? us path = (d.unit path).toOption.bind fun u ↦
      if (us.obstacle? u).isSome then none else some u.code := by
  have hkey (u : GeneratedUnit) : us.obstacle? u = us.obstacle? ⟨u.key, []⟩ := by
    cases us <;> rfl
  rw [emitted?, unit]
  cases d.code with
  | error n => exact ite_self _
  | ok c => rw [hkey]; rfl

theorem emitted?_withCrate (p : Path) :
    (d.withCrate p).emitted? us path =
      if (us.obstacle? ⟨unitKey path d.name d.kind, []⟩).isSome then none
      else (d.withCrate p).code.toOption := rfl

theorem isSome_emitted?_withCrate (p q : Path) :
    ((d.withCrate p).emitted? us path).isSome = ((d.withCrate q).emitted? us path).isSome := by
  rw [emitted?_withCrate, emitted?_withCrate]
  split
  · rfl
  · exact d.isSome_code_withCrate p q

theorem Lacks.replace_emitted? {d : Declaration} {x : String} (h : d.Lacks x) (p : Path) :
    (d.withCrate p).emitted? us path =
      ((d.withCrate (.ofName x)).emitted? us path).map (Code.replace · x p.code) := by
  rw [emitted?_withCrate, emitted?_withCrate, ← h.replace_code p]
  split
  · rfl
  · cases (d.withCrate (.ofName x)).code <;> rfl

theorem replace_emitted? {x : String} {q : Path}
    (h : ∀ c, (d.withCrate q).emitted? us path = some c → x ∉ c.words) (p : Path) :
    (d.withCrate p).emitted? us path =
      ((d.withCrate (.ofName x)).emitted? us path).map (Code.replace · x p.code) := by
  rw [emitted?_withCrate] at h
  rw [emitted?_withCrate, emitted?_withCrate]
  split
  · rfl
  next hfree =>
    rw [if_neg hfree] at h
    rw [← replace_code (fun c hc ↦ h c (by rw [hc]; rfl)) p]
    cases (d.withCrate (.ofName x)).code <;> rfl

theorem code_of_emitted? {d : Declaration} {us : Units} {path : List String} {code : Code}
    (h : d.emitted? us path = some code) : d.code = .ok code := by
  rw [emitted?] at h
  split at h
  · cases h
  · cases hcode : d.code with
    | error n =>
      rw [hcode] at h
      cases h
    | ok c =>
      rw [hcode] at h
      exact congrArg Except.ok (Option.some.inj h)

end Declaration

/-- A declaration as it is given. -/
inductive DeclarationForm where
  /-- A marker with its arguments, and the item that it is put on. -/
  | outside (kind : MarkerKind) (args item : List Tree)
  /-- A struct in a module tree with these items. -/
  | inside (items : List Item) (c : Candidate)

namespace DeclarationForm

/-- The declaration, if it is valid. -/
def declaration? : DeclarationForm → Option Declaration
  | outside kind args item => accepted? (markedDeclaration kind args item)
  | inside items c => (accepted? (c.declaration? (.ofItems items))).join

/-- The code that the declaration is expanded to, if the expansion succeeds. -/
def code? (us : Units) : DeclarationForm → Option Code
  | outside kind args item => (expandMarker kind args item us).toOption.bind (·.1.toOption)
  | inside items c => (c.expand (.ofItems items) us).toOption.bind (·.1.code?)

/-- The names of the modules around the struct. -/
def path : DeclarationForm → List String
  | outside .. => []
  | inside _ c => c.path

/-- Two inputs with a marker of this kind are the same, but the library is at `p` for one and at `q`
for the other. -/
inductive SameButCrate (kind : MarkerKind) (p q : Path) : DeclarationForm → DeclarationForm → Prop
  | outside {args args' : List Tree} (item : List Tree)
      (h : MarkerArgs.SameButCrate p q args args') :
      SameButCrate kind p q (outside kind args item) (outside kind args' item)
  | inside {s s' : Struct} {path : List String} {items items' : List Item}
      (hs : Struct.SameButCrate kind p q s s') (h : Item.SameButStruct s s' path items items') :
      SameButCrate kind p q (inside items ⟨s, path⟩) (inside items' ⟨s', path⟩)

/-- The code is that of the declaration. -/
theorem code?_eq (f : DeclarationForm) (us : Units) :
    f.code? us = f.declaration?.bind (·.emitted? us f.path) := by
  cases f with
  | outside kind args item =>
    rw [code?, declaration?, path, expandMarker_eq]
    rcases markedDeclaration kind args item with n | e | d
    · rfl
    · rfl
    · refine Eq.trans ?_ (d.emitted?_eq us []).symm
      dsimp only
      cases d.unit [] with
      | error n => rfl
      | ok u =>
        simp only [Except.toOption, Option.bind_some]
        cases us.obstacle? u <;> rfl
  | inside items c =>
    have hmap (e : Except NotAName (Expansion × Units)) :
        e.toOption.bind (·.1.code?) = (e.map Prod.fst).toOption.bind Expansion.code? := by
      cases e <;> rfl
    rw [code?, declaration?, path, hmap, c.map_fst_expand]
    rcases c.declaration? (.ofItems items) with n | e | _ | d
    · rfl
    · rfl
    · rfl
    · refine Eq.trans ?_ (d.emitted?_eq us c.path).symm
      dsimp only
      cases d.unit c.path with
      | error n => rfl
      | ok u =>
        simp only [Except.map, Except.toOption, Option.bind_some]
        cases us.obstacle? u <;> rfl

namespace SameButCrate

variable {kind : MarkerKind} {p q : Path} {f f' : DeclarationForm}

theorem symm (h : SameButCrate kind p q f f') : SameButCrate kind q p f' f := by
  cases h with
  | outside item h => exact .outside item h.symm
  | inside hs h => exact .inside hs.symm h.symm

theorem path_eq (h : SameButCrate kind p q f f') : f.path = f'.path := by
  cases h <;> rfl

/-- **Nothing that is checked, found or inferred depends on where the library is.**  The
declarations are the same but for the path. -/
theorem declaration? (h : SameButCrate kind p q f f') (hp : p.Serves kind) (hq : q.Serves kind) :
    f.declaration? = f'.declaration?.map (Declaration.withCrate · p) := by
  cases h with
  | outside item h =>
    rw [DeclarationForm.declaration?, DeclarationForm.declaration?, markedDeclaration,
      markedDeclaration]
    cases Grammar.item.run .nowhere item with
    | error d => rfl
    | ok i =>
      cases i with
      | struct s => exact h.markedItem hp hq s (Tree.spanAll item)
      | module head items => rfl
      | members b => rfl
      | other code => rfl
  | @inside s s' path items items' hs h =>
    rw [DeclarationForm.declaration?, DeclarationForm.declaration?, h.ofItems_eq hs.marked_eq]
    exact hs.declaration? hp hq path _

variable (h : SameButCrate kind p q f f') (hp : p.Serves kind) (hq : q.Serves kind)

include h hp hq

/-- The path of the second declaration is that which its input says. -/
theorem withCrate_eq {d : Declaration} (hd : f'.declaration? = some d) : d.withCrate q = d := by
  have hback := h.symm.declaration? hq hp
  rw [h.declaration? hp hq, hd] at hback
  exact ((Option.some.inj hback).trans (d.withCrate_withCrate p q)).symm

theorem code?_first (us : Units) :
    f.code? us = f'.declaration?.bind fun d ↦ (d.withCrate p).emitted? us f'.path := by
  rw [code?_eq, h.declaration? hp hq, h.path_eq, Option.bind_map]
  rfl

theorem code?_second (us : Units) :
    f'.code? us = f'.declaration?.bind fun d ↦ (d.withCrate q).emitted? us f'.path := by
  rw [code?_eq]
  cases hd : f'.declaration? with
  | none => rfl
  | some d => rw [Option.bind_some, Option.bind_some, h.withCrate_eq hp hq hd]

omit h hq in
/-- **The path of the library can be put in the place of a word.**  Let the library be at `p` in one
input and at the word `x` in another that is the same otherwise.  For a UUID, let a type begin with
either path.

The two declarations are the same but for the path, so nothing that is checked, found or inferred
depends on it, and there is code for both or for neither.

If `x` does not stand in the code for a third path, the code of the first input is that of the
second with `p` in the place of every `x`.  This is so for every word that is none of the
declaration and none that generated code has of its own.  Such a word stands in the code of the
first input only if it is a word of `p`. -/
theorem path_replaced {x : String} (h : SameButCrate kind p (.ofName x) f f')
    (hx : (Path.ofName x).Serves kind) (us : Units) :
    f.declaration? = f'.declaration?.map (Declaration.withCrate · p) ∧
      ((f.code? us).isSome ↔ (f'.code? us).isSome) ∧
      (∀ q g, SameButCrate kind q (.ofName x) g f' → q.Serves kind →
        (∀ c, g.code? us = some c → x ∉ c.words) →
        f.code? us = (f'.code? us).map (Code.replace · x p.code)) ∧
      (∀ d, f'.declaration? = some d → d.Lacks x →
        f.code? us = (f'.code? us).map (Code.replace · x p.code)) ∧
      ∀ d w, f'.declaration? = some d → d.Lacks w → w ∉ p.code.words →
        ∀ c, f.code? us = some c → w ∉ c.words := by
  refine ⟨h.declaration? hp hx, ?_⟩
  rw [h.code?_first hp hx us, h.code?_second hp hx us]
  cases hd : f'.declaration? with
  | none =>
    refine ⟨Iff.rfl, fun _ _ _ _ _ ↦ rfl, fun d hd' ↦ ?_, fun d w hd' ↦ ?_⟩ <;> cases hd'
  | some d =>
    simp only [Option.bind_some]
    refine ⟨by rw [d.isSome_emitted?_withCrate us f'.path p (.ofName x)], fun q g hg hq hfree ↦ ?_,
      fun d' hd' hlacks ↦ ?_, fun d' w hd' hw hfree c hc ↦ ?_⟩
    · rw [hg.code?_first hq hx us, hd] at hfree
      exact d.replace_emitted? us f'.path hfree p
    · obtain rfl := Option.some.inj hd'
      exact hlacks.replace_emitted? us f'.path p
    · obtain rfl := Option.some.inj hd'
      exact hw.notMem_words hfree (Declaration.code_of_emitted? hc)

omit h hp hq

/-! ### A UUID -/

/-- `struct A;` -/
def uuidItem : List Tree :=
  [.word "struct" .nowhere, .word "A" .nowhere, .mark ';' false .nowhere]

/-- A UUID named `A`, with the library at the path in a literal. -/
def uuidAt (literal : String) : DeclarationForm :=
  .outside .guid [.word "crate" .nowhere, .mark '=' false .nowhere, .literal literal .nowhere]
    uuidItem

theorem uuidAt_sameButCrate {literal literal' name name' : String}
    (hl : TextLiteral.ofText? literal = some ⟨name, ""⟩)
    (hp : (Grammar.readText Grammar.path ⟨name, ""⟩ .nowhere).toOption.any (·.isName name) = true)
    (hl' : TextLiteral.ofText? literal' = some ⟨name', ""⟩)
    (hp' : (Grammar.readText Grammar.path ⟨name', ""⟩ .nowhere).toOption.any (·.isName name') =
      true) :
    SameButCrate .guid (.ofName name) (.ofName name') (uuidAt literal) (uuidAt literal') := by
  have hfront : BeforeEntry [] := .inl ⟨[], .nil⟩
  exact .outside uuidItem (.entry hfront (MarkerEntry.spelled_crate hl hp)
    (MarkerEntry.spelled_crate hl' hp'))

theorem path_replaced_uuidAt :
    SameButCrate .guid (.ofName "p") (.ofName "x") (uuidAt "\"p\"") (uuidAt "\"x\"") ∧
      (Path.ofName "p").Serves .guid ∧ (Path.ofName "x").Serves .guid ∧
      ((uuidAt "\"p\"").code? .ignored).isSome ∧
      (uuidAt "\"p\"").code? .ignored =
        ((uuidAt "\"x\"").code? .ignored).map (Code.replace · "x" [.word "p"]) := by
  have h : SameButCrate .guid (.ofName "p") (.ofName "x") (uuidAt "\"p\"") (uuidAt "\"x\"") :=
    uuidAt_sameButCrate (by decide +kernel) (by decide +kernel) (by decide +kernel)
      (by decide +kernel)
  have hp : (Path.ofName "p").Serves .guid := fun _ ↦ by decide
  have hx : (Path.ofName "x").Serves .guid := fun _ ↦ by decide
  obtain ⟨-, -, hthird, -⟩ := path_replaced hp h hx .ignored
  have hlacks : ((uuidAt "\"p\"").code? .ignored).all (fun c ↦ "x" ∉ c.words) = true := by
    decide +kernel
  refine ⟨h, hp, hx, by decide +kernel, hthird _ _ h hp fun c hc ↦ ?_⟩
  rw [hc] at hlacks
  exact of_decide_eq_true hlacks

/-- The word must not be one that generated code has anyway. -/
theorem not_replaced_core :
    SameButCrate .guid (.ofName "p") (.ofName "core") (uuidAt "\"p\"") (uuidAt "\"core\"") ∧
      "core" ∉ (Tree.codeAll uuidItem).words ∧
      (uuidAt "\"p\"").code? .ignored ≠
        ((uuidAt "\"core\"").code? .ignored).map (Code.replace · "core" [.word "p"]) :=
  ⟨uuidAt_sameButCrate (by decide +kernel) (by decide +kernel) (by decide +kernel)
    (by decide +kernel), by decide +kernel, by decide +kernel⟩

end SameButCrate

end DeclarationForm

end TypedIds
