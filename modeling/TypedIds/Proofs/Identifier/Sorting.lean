import TypedIds.Proofs.Identifier.Comparison

/-!
# Sorting identifiers of one type

Identifiers are sorted without knowing their types beforehand, and identifiers of two types cannot
be sorted at all.  If there is one type (`AnyIdentifier.ofType`), sorting them is sorting by the
values, and what comes of it is sorted.

An identifier that comes before all others of its type is at the head of every sorted list, as often
as it is in the list (`eq_filter_append_filter`).
-/

set_option autoImplicit false

namespace TypedIds

/-! ## The head of a sorted list -/

/-- What stands in no list after anything else comes first. -/
theorem eq_filter_append_filter {α : Type} {le : α → α → Prop} {p : α → Bool}
    (hp : ∀ a b, p a = false → p b = true → ¬le a b) {as : List α} (has : as.Pairwise le) :
    as = as.filter p ++ as.filter fun a ↦ !p a := by
  induction has with
  | nil => rfl
  | @cons a as ha _ ih =>
    cases hpa : p a with
    | true => simpa [hpa] using ih
    | false =>
      have hrest : ∀ b ∈ as, p b = false := fun b hb ↦ by
        rw [← Bool.not_eq_true]
        exact fun hpb ↦ hp a b hpa hpb (ha b hb)
      have hnone : as.filter p = [] := List.filter_eq_nil_iff.2 fun b hb ↦ by simp [hrest b hb]
      have hall : (as.filter fun b ↦ !p b) = as := List.filter_eq_self.2 fun b hb ↦ by
        simp [hrest b hb]
      simp [hpa, hnone, hall]

namespace AnyIdentifier

variable {Key : Type} {F : Family Key} {k : Key}

/-! ## One type -/

/-- An identifier of the type `k` in its slot. -/
def ofType (k : Key) (x : Nat × F.Id k) : Nat × AnyIdentifier F := (x.1, ⟨k, x.2⟩)

/-- The first identifier does not come after the second. -/
def notAfter (x y : Nat × F.Id k) : Bool := (F.values k).order x.2.value y.2.value != .gt

variable [DecidableEq Key]

/-- Identifiers of one type are sorted by their values. -/
theorem sorted?_ofType (xs : List (Nat × F.Id k)) :
    sorted? (xs.map (ofType k)) = some ((xs.mergeSort notAfter).map (ofType k)) := by
  have hsort : (xs.mergeSort notAfter).map (ofType k) =
      (xs.map (ofType k)).mergeSort fun a b ↦ a.2.order? b.2 != some .gt :=
    List.map_mergeSort fun x _ y _ ↦ by
      rw [ofType, ofType, order?_of_key_eq, notAfter]
      simp [bne]
  rw [hsort]
  cases xs with
  | nil => simp [sorted?]
  | cons x xs => simp [sorted?, ofType]

omit [DecidableEq Key] in
/-- **What comes of sorting is sorted.** -/
theorem pairwise_mergeSort_notAfter (xs : List (Nat × F.Id k)) :
    (xs.mergeSort notAfter).Pairwise fun x y ↦ (F.values k).order x.2.value y.2.value ≠ .gt := by
  have := (F.values k).transCmp_order
  have htrans (x y z : Nat × F.Id k) (hxy : notAfter x y = true) (hyz : notAfter y z = true) :
      notAfter x z = true := by
    simp only [notAfter, bne_iff_ne, Ordering.ne_gt_iff_isLE] at hxy hyz ⊢
    exact Std.TransCmp.isLE_trans hxy hyz
  have htotal (x y : Nat × F.Id k) : (notAfter x y || notAfter y x) = true := by
    have hswap : (F.values k).order y.2.value x.2.value =
        ((F.values k).order x.2.value y.2.value).swap := Std.OrientedCmp.eq_swap
    simp only [notAfter, Bool.or_eq_true, bne_iff_ne, hswap]
    cases (F.values k).order x.2.value y.2.value <;> simp
  exact (List.pairwise_mergeSort htrans htotal xs).imp fun hxy ↦ by simpa [notAfter] using hxy

end AnyIdentifier

end TypedIds
