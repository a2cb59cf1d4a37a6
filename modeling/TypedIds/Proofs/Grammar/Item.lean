import TypedIds.Grammar.Source
import TypedIds.Proofs.Grammar.Reader

/-!
# What a struct that is read begins with

After its attributes a struct has its visibility, which is nothing or begins with `pub`, so its code
goes on with a word there.
-/

set_option autoImplicit false

namespace TypedIds

/-- Code that is nothing or begins with `pub`. -/
def Code.IsVisibility (v : Code) : Prop := v = [] ∨ ∃ rest, v = .word "pub" :: rest

/-- If an item is a struct, its visibility is one. -/
def Item.HasVisibility (i : Item) : Prop := ∀ s, i = .struct s → s.visibility.IsVisibility

namespace Grammar

open Reader

theorem visibility_yields : Yields Code.IsVisibility visibility := by
  refine .andThen fun isPub ↦ .ite (.andThen fun inParens ↦ .ite ?_ ?_) (.pure (.inl rfl))
  · refine .andThen fun before ↦ .andThen fun code ↦ ?_
    cases code with
    | some code => exact .pure (.inr ⟨_, rfl⟩)
    | none => exact .andThen fun _ ↦ .pure (.inr ⟨_, rfl⟩)
  · exact .pure (.inr ⟨_, rfl⟩)

namespace Nested

variable (r : Nested)

theorem structAfter_yields (attributes : List Attribute) :
    Yields (fun s ↦ s.visibility.IsVisibility) (r.structAfter attributes) :=
  visibility_yields.bind fun _ hv ↦
    .andThen fun _ ↦ .andThen fun _ ↦ .andThen fun _ ↦ .andThen fun _ ↦ .pure hv

theorem moduleAfter_yields (attrs : Code) : Yields Item.HasVisibility (r.moduleAfter attrs) := by
  refine .andThen fun vis ↦ .andThen fun safety ↦ .andThen fun _ ↦ .andThen fun n ↦
    .andThen fun isOut ↦ .ite ?_ (.andThen fun braces ↦ .ite ?_ ?_)
  · exact .pure fun s h ↦ nomatch h
  · exact .andThen fun _ ↦ .pure fun s h ↦ nomatch h
  · exact .andThen fun _ ↦ .andThen fun _ ↦ .fail _ _

/-- If what is read is a struct at all, its visibility is one. -/
def KnownVisibility (known : Option Item) : Prop := ∀ i ∈ known, i.HasVisibility

theorem KnownVisibility.other (code : Code) : KnownVisibility (some (.other code)) := by
  rintro i ⟨⟩ s h
  exact nomatch h

theorem KnownVisibility.map_other (code : Option Code) (f : Code → Item)
    (hf : ∀ c, ∃ code, f c = .other code) : KnownVisibility (code.map f) := by
  cases code with
  | none => exact fun i h ↦ nomatch h
  | some c =>
    obtain ⟨code, hc⟩ := hf c
    rw [Option.map_some, hc]
    exact .other code

theorem KnownVisibility.none : KnownVisibility none := fun _ h ↦ nomatch h

theorem Item.HasVisibility.known {i : Item} (h : i.HasVisibility) : KnownVisibility (some i) := by
  rintro j ⟨⟩
  exact h

theorem memberBlock_yields (attrs : Code) : Yields KnownVisibility (r.memberBlock attrs) := by
  refine .andThen fun head ↦ .andThen fun (inner, members) ↦ .ite (.pure .none) (.pure ?_)
  exact Item.HasVisibility.known fun s h ↦ nomatch h

theorem unsafeItem_yields (attrs : Code) (ts : List Tree) :
    Yields KnownVisibility (r.unsafeItem attrs ts) := by
  refine .ite ?_ (.ite (r.memberBlock_yields attrs) (.ite ?_ (.ite ?_ ?_)))
  · exact .andThen fun _ ↦ .pure (.other _)
  · exact .andThen fun _ ↦ .pure (.other _)
  · exact (r.moduleAfter_yields attrs).bind fun m hm ↦ .pure (Item.HasVisibility.known hm)
  · exact .andThen fun _ ↦ .andThen fun _ ↦ .andThen fun _ ↦ .andThen fun _ ↦ .fail _ _

theorem knownItem_yields : Yields KnownVisibility r.knownItem := by
  refine .andThen fun attributes ↦ .andThen fun (vis, ts) ↦ ?_
  have hmap : ∀ p : Reader (Option Code), Yields KnownVisibility do
      return (← p).map fun c ↦ .other (Attribute.codeAll attributes ++ c) :=
    fun p ↦ .andThen fun c ↦ .pure (.map_other c _ fun _ ↦ ⟨_, rfl⟩)
  have hsome : ∀ p : Reader Code, Yields KnownVisibility do
      return some (.other (Attribute.codeAll attributes ++ (← p))) :=
    fun p ↦ .andThen fun c ↦ .pure (.other _)
  -- one line for each kind of item, in the order in which they are told apart
  refine .ite (hmap _) <| .ite (hsome _) <| .ite (hmap _) <| .ite (hmap _) <| .ite (hmap _) <|
    .ite (r.unsafeItem_yields _ _) <| .ite ?_ <| .ite (hmap _) <| .ite ?_ <| .ite (hsome _) <|
    .ite (hsome _) <| .ite (hsome _) <| .ite (r.memberBlock_yields _) <| .ite ?_ <|
    .ite (hsome _) ?_
  · exact (r.moduleAfter_yields _).bind fun m hm ↦ .pure (Item.HasVisibility.known hm)
  · refine (r.structAfter_yields attributes).bind fun s hs ↦ .pure ?_
    refine Item.HasVisibility.known ?_
    rintro s ⟨⟩
    exact hs
  · exact .andThen fun _ ↦ .pure .none
  · exact .andThen fun _ ↦ .andThen fun _ ↦ .andThen fun _ ↦ .fail _ _

theorem itemOf_yields : Yields Item.HasVisibility r.itemOf := by
  refine r.knownItem_yields.taking.bind fun (known, taken) hk ↦ .pure ?_
  cases known with
  | none => exact fun s h ↦ nomatch h
  | some i => exact hk i rfl

end Nested

theorem nestedTo_item_yields (depth : Nat) : Yields Item.HasVisibility (nestedTo depth).item := by
  cases depth with
  | zero => exact .andThen fun _ ↦ .fail _ _
  | succ n => exact (nestedTo n).itemOf_yields

/-- The visibility of a struct that is read is nothing or begins with `pub`. -/
theorem isVisibility_of_item {scope : Span} {ts : List Tree} {s : Struct}
    (h : item.run scope ts = .ok (.struct s)) : s.visibility.IsVisibility :=
  (nestedTo_item_yields deepest).run h s rfl

end Grammar

end TypedIds
