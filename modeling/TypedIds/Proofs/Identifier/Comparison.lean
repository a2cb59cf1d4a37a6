import TypedIds.Catalogue
import TypedIds.Identifier.Any
import TypedIds.Proofs.Value.Order

/-!
# Comparing identifiers of any types

Two identifiers are compared without knowing their types beforehand.  They are the same exactly if
both the type and the value are (`AnyIdentifier.same_iff`).  If their types are the same, they stand
in the linear order of the values of that type (`AnyIdentifier.order?_of_key_eq`); if not, they are
in no order at all (`AnyIdentifier.order?_eq_none_iff`), even if the types have one name and the
values are equal.

**`AnyIdentifier.comparison_laws`** puts the laws together.
-/

set_option autoImplicit false

namespace TypedIds.AnyIdentifier

variable {Key : Type} [DecidableEq Key] {F : Family Key}

/-- Two identifiers are the same if their types are, and the values. -/
theorem same_iff {a b : AnyIdentifier F} : a.same b = true ↔ a = b := by
  obtain ⟨k, x⟩ := a
  obtain ⟨j, y⟩ := b
  rw [same]
  by_cases h : j = k
  · subst h
    simp
  · simp [h, Ne.symm h]

/-- Identifiers of one type are ordered by their values. -/
theorem order?_of_key_eq {k : Key} (x y : F.Id k) :
    (⟨k, x⟩ : AnyIdentifier F).order? ⟨k, y⟩ = some ((F.values k).order x.value y.value) := by
  simp [order?]

/-- Identifiers of two types are in no order. -/
theorem order?_eq_none_iff {a b : AnyIdentifier F} : a.order? b = none ↔ a.key ≠ b.key := by
  rw [order?]
  split
  · next h => simp [h]
  · next h => simpa using Ne.symm h

/-- Identifiers are level exactly if they are the same. -/
theorem order?_eq_some_eq_iff {a b : AnyIdentifier F} : a.order? b = some .eq ↔ a = b := by
  obtain ⟨k, x⟩ := a
  obtain ⟨j, y⟩ := b
  by_cases h : k = j
  · subst h
    rw [order?_of_key_eq, Option.some_inj,
      (F.values k).lawfulEqCmp_order.compare_eq_iff_eq]
    constructor
    · intro hxy
      rw [show x = y from congrArg Identifier.mk hxy]
    · rintro ⟨⟩
      rfl
  · have hnone : (⟨k, x⟩ : AnyIdentifier F).order? ⟨j, y⟩ = none := order?_eq_none_iff.2 h
    rw [hnone]
    exact iff_of_false (by simp) fun hab ↦ h (congrArg key hab)

/-- The order turned round. -/
theorem order?_swap (a b : AnyIdentifier F) : b.order? a = (a.order? b).map Ordering.swap := by
  obtain ⟨k, x⟩ := a
  obtain ⟨j, y⟩ := b
  by_cases h : k = j
  · subst h
    rw [order?_of_key_eq, order?_of_key_eq, Option.map_some,
      (F.values k).transCmp_order.eq_swap]
  · have hab : (⟨k, x⟩ : AnyIdentifier F).order? ⟨j, y⟩ = none := order?_eq_none_iff.2 h
    have hba : (⟨j, y⟩ : AnyIdentifier F).order? ⟨k, x⟩ = none :=
      order?_eq_none_iff.2 (Ne.symm h)
    rw [hab, hba, Option.map_none]

/-- Only identifiers of one type are in an order. -/
theorem key_eq_of_order? {a b : AnyIdentifier F} {o : Ordering} (h : a.order? b = some o) :
    a.key = b.key := by
  refine Decidable.byContradiction fun hne ↦ ?_
  rw [order?_eq_none_iff.2 hne] at h
  exact nomatch h

/-- What comes before an identifier comes before all that come after it. -/
theorem order?_trans {a b c : AnyIdentifier F} (hab : a.order? b = some .lt)
    (hbc : b.order? c = some .lt) : a.order? c = some .lt := by
  have hkab := key_eq_of_order? hab
  have hkbc := key_eq_of_order? hbc
  obtain ⟨k, x⟩ := a
  obtain ⟨_, y⟩ := b
  obtain ⟨_, z⟩ := c
  obtain rfl : k = _ := hkab
  obtain rfl : k = _ := hkbc
  rw [order?_of_key_eq, Option.some_inj] at hab hbc ⊢
  have := (F.values k).transCmp_order
  exact Std.TransCmp.lt_trans hab hbc

/-- **Identifiers of any types are in a partial order that falls apart by type.**  Being the same is
an equivalence, and means that both types and both values are the same.  Two identifiers are in some
order exactly if their types are the same; they are level exactly if they are the same; the order of
the second and the first is that of the first and the second turned round; and to come before can be
chained. -/
theorem comparison_laws (F : Family Key) :
    Equivalence (fun a b : AnyIdentifier F ↦ a.same b = true) ∧
      ∀ a b c : AnyIdentifier F,
        (a.same b = true ↔ a = b) ∧
          ((a.order? b).isSome = true ↔ a.key = b.key) ∧
          (a.order? b = some .eq ↔ a.same b = true) ∧
          b.order? a = (a.order? b).map Ordering.swap ∧
          (a.order? b = some .lt → b.order? c = some .lt → a.order? c = some .lt) := by
  refine ⟨⟨?_, ?_, ?_⟩, fun a b c ↦ ⟨same_iff, ?_, ?_, order?_swap a b, order?_trans⟩⟩
  · intro a
    exact same_iff.2 rfl
  · intro a b hab
    exact same_iff.2 (same_iff.1 hab).symm
  · intro a b c hab hbc
    exact same_iff.2 ((same_iff.1 hab).trans (same_iff.1 hbc))
  · rw [Option.isSome_iff_ne_none, Ne, order?_eq_none_iff, Decidable.not_not]
  · rw [order?_eq_some_eq_iff, same_iff]

/-- Slots are compared by their order, then their number, then their note, and a missing note comes
first.  A batch and a lot of one number are not compared at all. -/
theorem comparison_laws_slots :
    let slot (number : (ValueType.unsigned 32 : ValueType Catalogue.Key).Val)
        (note : Option String) : AnyIdentifier Catalogue.family :=
      ⟨.slot, ⟨⟨Uuid.nil⟩, number, note, ()⟩⟩
    let first := slot ⟨1, by decide⟩ none
    let second := slot ⟨1, by decide⟩ (some "")
    let third := slot ⟨2, by decide⟩ none
    let batch : AnyIdentifier Catalogue.family := ⟨.batchId, ⟨Uuid.nil⟩⟩
    let lot : AnyIdentifier Catalogue.family := ⟨.lotId, ⟨Uuid.nil⟩⟩
    first.order? second = some .lt ∧ second.order? third = some .lt ∧
      first.order? third = some .lt ∧ (batch.order? lot).isSome ≠ true := by
  intro slot first second third batch lot
  have hnote : first.order? second = some .lt := rfl
  have hnumber : second.order? third = some .lt := rfl
  obtain ⟨-, hlaws⟩ := comparison_laws Catalogue.family
  obtain ⟨-, -, -, -, htrans⟩ := hlaws first second third
  obtain ⟨-, hsome, -⟩ := hlaws batch lot lot
  have hkeys : batch.key ≠ lot.key := by decide
  exact ⟨hnote, hnumber, htrans hnote hnumber, fun h ↦ hkeys (hsome.1 h)⟩

end TypedIds.AnyIdentifier
