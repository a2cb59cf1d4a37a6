import TypedIds.Generated.Combined
import TypedIds.Proofs.Declaration.Accepted
import TypedIds.Proofs.Default.Parentheses

/-!
# What a combined identifier shows

The code of a combined identifier demands of some types that their values can be shown, and shows
its components, each by one write.  Which type is demanded is told by the type of the component
alone; what the write shows is told by the rule that has been inferred for it, and that depends on
the module tree.

* `ComponentDefault.eq_null_iff` — the rule for nothing is inferred exactly for an `Option`, unless
  there is an identifier of that name.
* `Stmt.Shows` — the type of what a write shows, by the type of the component.
* **`Generated.Combined.shows_demanded`**: what is shown has the type that is demanded.
-/

set_option autoImplicit false

namespace TypedIds

/-! ## Options -/

/-- The type that is demanded to be shown for an `Option` is that inside. -/
theorem Ty.HasArgument.displayed_eq {t u : Ty} (h : t.HasArgument "Option" u) :
    t.displayed = u := by
  rw [displayed, argumentOf?_eq_some_iff.mpr h, Option.getD_some]

/-- For any other type it is the type itself. -/
theorem Ty.displayed_of_no_option {t : Ty} (h : ¬∃ u, t.HasArgument "Option" u) :
    t.displayed = t := by
  have hnone : t.argumentOf? "Option" = none :=
    Option.eq_none_iff_forall_ne_some.mpr fun u hu ↦ h ⟨u, argumentOf?_eq_some_iff.mp hu⟩
  rw [displayed, hnone, Option.getD_none]

/-- The last name of an `Option` is this one; none, if a type stands before the path. -/
theorem Ty.HasArgument.lastName?_eq {t u : Ty} (h : t.HasArgument "Option" u) :
    t.lastName? = some "Option" ∨ t.lastName? = none := by
  obtain ⟨turbofish, more, trailing, hlast⟩ := h
  cases t with
  | path rooted front last =>
    obtain rfl := Option.some.inj hlast
    exact .inl rfl
  | qualified front last => exact .inr rfl
  | _ => cases hlast

namespace ComponentDefault

variable {x : Index}

/-- No `Option` is an identifier, if there is none of this name. -/
theorem isIdentifier_of_option {t u : Ty} (hOption : "Option" ∉ x.identifiers)
    (h : t.HasArgument "Option" u) : isIdentifier x t = false := by
  rw [isIdentifier]
  cases h.lastName?_eq with
  | inl hname => simpa [hname, Index.isIdentifier] using hOption
  | inr hname => rw [hname, Option.any_none]

/-- The rule for nothing is inferred exactly for an `Option`. -/
theorem eq_null_iff {c : Component} {v : ComponentDefault} (hOption : "Option" ∉ x.identifiers)
    (hv : infer x c = .ok v) : v = .null ↔ ∃ u, c.ty.HasArgument "Option" u := by
  rw [infer_eq] at hv
  cases hargument : c.ty.argumentOf? "Option" with
  | some u =>
    have hu := Ty.argumentOf?_eq_some_iff.mp hargument
    rw [isIdentifier_of_option hOption hu, hargument] at hv
    cases hlacks : c.ty.lacksEquality? with
    | some part => simp [hlacks] at hv
    | none => exact iff_of_true (by simpa [hlacks, eq_comm] using hv) ⟨u, hu⟩
  | none =>
    have hnone : ¬∃ u, c.ty.HasArgument "Option" u := by
      simp [← Ty.argumentOf?_eq_some_iff, hargument]
    refine iff_of_false (fun hnull ↦ ?_) hnone
    rw [hnull, hargument] at hv
    cases hidentifier : isIdentifier x c.ty with
    | true => simp [hidentifier] at hv
    | false =>
      cases hlacks : c.ty.lacksEquality? with
      | some part => simp [hidentifier, hlacks] at hv
      | none => exact ofName_ne_null x c.ty (by simpa [hidentifier, hlacks] using hv)

end ComponentDefault

namespace Generated

/-! ## Demands and writes -/

/-- The demands of an item on types. -/
def Item.checks : Item → List (Code × Code)
  | .assertions checks => checks
  | _ => []

/-- What a member runs: its statements, and then its result. -/
def Member.stmts : Member → List Stmt
  | .function f => f.stmts ++ [.run f.result]
  | _ => []

/-- What an item runs to implement a trait of this name. -/
def Item.stmtsOf (trait : String) : Item → List Stmt
  | .implementation i =>
    if i.trait.any (·.name == trait) then i.members.flatMap Member.stmts else []
  | _ => []

/-- Whether a fixed text is written. -/
def Expr.writesText : Expr → Bool
  | .propagate e => e.writesText
  | .method _ "write_str" [.text _] => true
  | _ => false

/-- Whether a statement only writes a fixed text. -/
def Stmt.writesText : Stmt → Bool
  | .run e => e.writesText
  | _ => false

/-- All that items run to be shown, but for the writing of fixed texts. -/
def writes (is : List Item) : List Stmt :=
  (is.flatMap (Item.stmtsOf "Display")).filter (!·.writesText)

/-- A statement shows a value of this type, which is the component at `i` or the value inside of
this, if the components have these types. -/
inductive Stmt.Shows (types : List Ty) (i : Nat) : Stmt → Ty → Prop where
  /-- The component is shown. -/
  | whole {t : Ty} (ht : types[i]? = some t) :
    Stmt.Shows types i (.run (.propagate (formatValue "Display" (.borrow (.index .wrapped i))))) t
  /-- The value inside of the component is shown if there is one. -/
  | inside {t u : Ty} {name : String} (ht : types[i]? = some t) (hu : t.HasArgument "Option" u) :
    Stmt.Shows types i
      (.ifSome name (.borrow (.index .wrapped i))
        [.run (.propagate (formatValue "Display" (.var name)))]) u

namespace Combined

variable {d : Declaration} {x : Index}

theorem checks_items : (items d).flatMap Item.checks =
    d.components.map fun c ↦ (c.ty.code, c.ty.displayed.code) := by
  simp [items, Item.checks, demands, coreTraits]

theorem filter_writePart (i : Nat) (v : ComponentDefault) :
    (writeSeparated i v).filter (!·.writesText) = [writePart i v] := by
  have hpart : (writePart i v).writesText = false := by cases v <;> rfl
  have htext : (Stmt.run (.propagate (writeText ", "))).writesText = true := rfl
  rw [writeSeparated]
  split <;> simp [hpart, htext]

/-- What is run to show a combined identifier. -/
theorem stmtsOf_display : (items d).flatMap (Item.stmtsOf "Display") =
    .run (.propagate (writeText "(")) ::
      ((d.defaults.zipIdx.take d.components.length).flatMap fun (v, i) ↦ writeSeparated i v) ++
        [.run (writeText ")")] := by
  simp [items, Item.stmtsOf, demands, toValue, fromTrait, Trait.coreOf, displayFormat,
    debugFormat, formatting, Trait.core, coreTraits, defaultTrait, identifierTrait, libraryTrait,
    Member.stmts]

/-- What is written, but for fixed texts, is one thing for each component. -/
theorem writes_items : writes (items d) =
    (d.defaults.zipIdx.take d.components.length).map fun (v, i) ↦ writePart i v := by
  have hopen : (Stmt.run (.propagate (writeText "("))).writesText = true := rfl
  have hclose : (Stmt.run (writeText ")")).writesText = true := rfl
  rw [writes, stmtsOf_display, List.filter_append, List.filter_cons, hopen, List.filter_flatMap]
  simp [filter_writePart, hclose, List.map_eq_flatMap]

/-- What the write of a component shows is the component, or what is inside of it by the rule for
nothing. -/
theorem shows_writePart {types : List Ty} {i : Nat} {t u : Ty} {v : ComponentDefault}
    (ht : types[i]? = some t) (hv : v = .null ↔ ∃ u, t.HasArgument "Option" u) :
    (writePart i v).Shows types i u ↔ u = t.displayed := by
  by_cases hnull : v = .null
  · obtain ⟨w, hw⟩ := hv.mp hnull
    rw [hnull, writePart, hw.displayed_eq]
    constructor
    · rintro (_ | ⟨ht', hu⟩)
      obtain rfl := Option.some.inj (ht.symm.trans ht')
      exact hu.displayed_eq.symm.trans hw.displayed_eq
    · rintro rfl
      exact .inside ht hw
  · have hwrite : writePart i v =
        .run (.propagate (formatValue "Display" (.borrow (.index .wrapped i)))) := by
      cases v with
      | null => exact absurd rfl hnull
      | _ => rfl
    rw [hwrite, Ty.displayed_of_no_option fun h ↦ hnull (hv.mpr h)]
    constructor
    · rintro (ht' | _)
      exact Option.some.inj (ht'.symm.trans ht)
    · rintro rfl
      exact .whole ht

/-- **What is shown has the type that is demanded.**  Apart from fixed texts, what is run to show a
combined identifier is one write for each component, and there is one demand for each.  The write of
a component shows a value of one type, and it is this that is demanded to be shown: the type inside
of the component if the rule for nothing has been inferred for it, and otherwise the type of the
component. -/
theorem shows_demanded (hOption : "Option" ∉ x.identifiers)
    (hdefaults : ComponentDefault.inferAll x d.components = .ok d.defaults) :
    (writes (items d)).length = d.components.length ∧
      ((items d).flatMap Item.checks).length = d.components.length ∧
      ∀ (i : Nat) (c : Component), d.components[i]? = some c →
        ∃ (v : ComponentDefault) (s : Stmt) (t : Ty),
          d.defaults[i]? = some v ∧ (writes (items d))[i]? = some s ∧
          ((items d).flatMap Item.checks)[i]? = some (c.ty.code, t.code) ∧
          (∀ u, s.Shows d.types i u ↔ u = t) ∧
          (v = .null → c.ty.HasArgument "Option" t) ∧ (v ≠ .null → t = c.ty) := by
  have hinferred := ComponentDefault.inferAll_eq_ok_iff.mp hdefaults
  have hlength := hinferred.length_eq
  have htake : d.defaults.zipIdx.take d.components.length = d.defaults.zipIdx :=
    List.take_of_length_le (by simp [hlength])
  rw [checks_items, writes_items, htake]
  refine ⟨by simp [hlength], by simp, fun i c hc ↦ ?_⟩
  obtain ⟨hi, rfl⟩ := List.getElem?_eq_some_iff.mp hc
  have hi' : i < d.defaults.length := hlength ▸ hi
  have hv : ComponentDefault.infer x d.components[i] = .ok d.defaults[i] :=
    (List.forall₂_iff_get.mp hinferred).2 i hi hi'
  have htype : d.types[i]? = some d.components[i].ty := by simp [Declaration.types, hi]
  have hnull := ComponentDefault.eq_null_iff hOption hv
  refine ⟨d.defaults[i], writePart i d.defaults[i], d.components[i].ty.displayed,
    List.getElem?_eq_getElem hi', ?write, ?check, fun u ↦ shows_writePart htype hnull,
    fun h ↦ ?inside, fun h ↦ ?whole⟩
  case write => simp [hi']
  case check => simp [hi]
  case inside =>
    obtain ⟨u, hu⟩ := hnull.mp h
    rwa [hu.displayed_eq]
  case whole => exact Ty.displayed_of_no_option fun hu ↦ h (hnull.mpr hu)

/-- The declaration of `#[combined_id(a: Option<u8>, b: String)] struct Key;`. -/
def optionalKey : Declaration where
  kind := .combined
  item := {
    attributes := [], visibility := [], name := "Key", generics := .none, predicates := none
    fields := .unit }
  components := [ComponentDefault.optionalByte,
    ⟨"b", (Path.ofNames false [] "String").toTy, .nowhere, .nowhere⟩]
  options := .default
  hook := none
  defaults := [.null, .empty .new (Path.ofNames false [] "String").toTy]

/-- Of the first component what is inside is shown. -/
theorem shows_demanded_optionalKey :
    "Option" ∉ Index.empty.identifiers ∧
      ComponentDefault.inferAll .empty optionalKey.components = .ok optionalKey.defaults ∧
      ∃ s, (writes (items optionalKey))[0]? = some s ∧
        ∀ u, s.Shows optionalKey.types 0 u ↔ u = (Path.ofNames false [] "u8").toTy := by
  have hOption : "Option" ∉ Index.empty.identifiers := List.not_mem_nil
  have hdefaults :
      ComponentDefault.inferAll .empty optionalKey.components = .ok optionalKey.defaults := rfl
  obtain ⟨v, s, t, hv, hs, -, hshows, hinside, -⟩ :=
    (shows_demanded hOption hdefaults).2.2 0 _ rfl
  obtain rfl : (Path.ofNames false [] "u8").toTy = t :=
    (hinside (Option.some.inj hv).symm).displayed_eq
  exact ⟨hOption, hdefaults, s, hs, hshows⟩

end Combined

end Generated

end TypedIds
