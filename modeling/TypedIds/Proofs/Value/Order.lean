import TypedIds.Value.Basic

/-!
# The order of values

Each type of values has an order of its own: a linear one, in which only equal values are level.
The types are built up from basic ones, and so is this fact.

* UUIDs, texts, characters, truth values and numbers have it from the core library, and a type of
  its own kind brings it along.
* An option, an identifier and a tuple have it from their parts.  The order of an identifier is that
  of the value inside of it, and the order of a tuple is that of its first field, and then that of
  the others (`FieldTypes.order_cons`).

**`ValueType.transCmp_order`** and **`ValueType.lawfulEqCmp_order`** are the two halves of it, in
the words of the core library.
-/

set_option autoImplicit false

namespace TypedIds

open Std

/-! ## Orders from orders -/

section

variable {α β : Type} {cmp : β → β → Ordering}

/-- Things that are compared by something in them are in an order. -/
theorem transCmp_comap (h : TransCmp cmp) (f : α → β) : TransCmp fun a b ↦ cmp (f a) (f b) where
  eq_swap := h.eq_swap
  isLE_trans := h.isLE_trans

/-- Things that are told apart by something in them are level only if they are equal. -/
theorem lawfulEqCmp_comap (h : LawfulEqCmp cmp) {f : α → β} (hf : ∀ a b, f a = f b → a = b) :
    LawfulEqCmp fun a b ↦ cmp (f a) (f b) where
  compare_self := h.compare_self
  eq_of_compare hab := hf _ _ (h.eq_of_compare hab)

end

variable {Key : Type}

/-! ## Options -/

section

variable {t : ValueType Key}

theorem ValueType.transCmp_option (h : TransCmp t.order) :
    TransCmp (ValueType.option t).order where
  eq_swap {a b} := by
    cases a <;> cases b
    case some.some a b => exact h.eq_swap
    all_goals rfl
  isLE_trans {a b c} hab hbc := by
    cases a with
    | none => cases c <;> rfl
    | some a =>
      cases b with
      | none => exact nomatch hab
      | some b =>
        cases c with
        | none => exact nomatch hbc
        | some c => exact h.isLE_trans hab hbc

theorem ValueType.lawfulEqCmp_option (h : LawfulEqCmp t.order) :
    LawfulEqCmp (ValueType.option t).order where
  compare_self {a} := by
    cases a with
    | none => rfl
    | some a => exact h.compare_self
  eq_of_compare {a b} hab := by
    cases a <;> cases b
    case none.none => rfl
    case some.some a b => exact congrArg some (h.eq_of_compare hab)
    all_goals exact nomatch hab

end

/-! ## Tuples -/

/-- The first field decides, and then the others. -/
theorem FieldTypes.order_cons (name : String) (t : ValueType Key) (fs : FieldTypes Key) :
    (FieldTypes.cons name t fs).order =
      compareLex (fun a b ↦ t.order a.1 b.1) (fun a b ↦ fs.order a.2 b.2) := by
  funext a b
  rw [FieldTypes.order, compareLex]

/-! ## All types -/

mutual

/-- **The order of a type is one**: it can be turned round and chained. -/
theorem ValueType.transCmp_order : (t : ValueType Key) → TransCmp t.order
  | .uuid => transCmp_comap (inferInstanceAs (TransOrd (BitVec 128))) Uuid.bits
  | .text => inferInstanceAs (TransOrd String)
  | .char => inferInstanceAs (TransOrd Char)
  | .truth => inferInstanceAs (TransOrd Bool)
  | .number _ _ => transCmp_comap (inferInstanceAs (TransOrd Int)) Subtype.val
  | .option t => ValueType.transCmp_option t.transCmp_order
  | .custom c => c.trans
  | .identifier _ t => transCmp_comap t.transCmp_order Identifier.value
  | .tuple fs => fs.transCmp_order

/-- The order of a tuple is one. -/
theorem FieldTypes.transCmp_order : (fs : FieldTypes Key) → TransCmp fs.order
  | .nil => { eq_swap := rfl, isLE_trans := fun _ _ ↦ rfl }
  | .cons name t fs => by
    rw [FieldTypes.order_cons]
    have := transCmp_comap t.transCmp_order (Prod.fst : t.Val × fs.Val → t.Val)
    have := transCmp_comap fs.transCmp_order (Prod.snd : t.Val × fs.Val → fs.Val)
    infer_instance

end

mutual

/-- **Only equal values are level** in the order of their type. -/
theorem ValueType.lawfulEqCmp_order : (t : ValueType Key) → LawfulEqCmp t.order
  | .uuid =>
    lawfulEqCmp_comap (inferInstanceAs (LawfulEqOrd (BitVec 128))) (f := Uuid.bits)
      fun _ _ h ↦ congrArg Uuid.mk h
  | .text => inferInstanceAs (LawfulEqOrd String)
  | .char => inferInstanceAs (LawfulEqOrd Char)
  | .truth => inferInstanceAs (LawfulEqOrd Bool)
  | .number _ _ =>
    lawfulEqCmp_comap (inferInstanceAs (LawfulEqOrd Int)) (f := Subtype.val) fun _ _ ↦ Subtype.ext
  | .option t => ValueType.lawfulEqCmp_option t.lawfulEqCmp_order
  | .custom c => c.lawfulEq
  | .identifier _ t =>
    lawfulEqCmp_comap t.lawfulEqCmp_order (f := Identifier.value)
      fun _ _ h ↦ congrArg Identifier.mk h
  | .tuple fs => fs.lawfulEqCmp_order

/-- Only equal tuples are level. -/
theorem FieldTypes.lawfulEqCmp_order : (fs : FieldTypes Key) → LawfulEqCmp fs.order
  | .nil => { compare_self := rfl, eq_of_compare := fun _ ↦ rfl }
  | .cons name t fs =>
    { compare_self := by
        intro a
        rw [FieldTypes.order, t.lawfulEqCmp_order.compare_self, fs.lawfulEqCmp_order.compare_self]
        rfl
      eq_of_compare := by
        intro a b hab
        rw [FieldTypes.order, Ordering.then_eq_eq] at hab
        exact Prod.ext (t.lawfulEqCmp_order.eq_of_compare hab.1)
          (fs.lawfulEqCmp_order.eq_of_compare hab.2) }

end

end TypedIds
