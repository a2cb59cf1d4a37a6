import Mathlib.Data.List.Basic
import TypedIds.Default

/-!
# Types without equality

Some types are known to have no equality by their form alone: floating point numbers, function
pointers, raw pointers, trait objects and types that are described by a trait.  A type that holds
one of them, in a place where it counts, has none either.

`Ty.parts` says which places these are, `Ty.Holds` goes down from part to part, and
`Ty.Incomparable` says which types are known to have no equality.
**`Ty.lacksEquality?_eq_none_iff`**: the search for such a part finds nothing exactly if the type
holds none.
-/

set_option autoImplicit false

namespace TypedIds

/-- The type that an argument is. -/
def Arg.type? : Arg → Option Ty
  | .type t => some t
  | .lifetime _ | .other _ => none

namespace Ty

/-- The types that must have equality for a type to have it: what a reference leads to, the elements
of an array, a slice or a tuple, what is in parentheses, and the arguments of the last name of a
path. -/
def parts : Ty → List Ty
  | .path _ _ ⟨_, .angle _ args _⟩ => args.filterMap Arg.type?
  | .tuple elems _ => elems
  | .reference _ _ t | .array t _ | .slice t | .paren t => [t]
  | .path _ _ ⟨_, .none⟩ | .qualified .. | .object .. | .other .. => []

/-- A type is the other one, or one of its parts holds it. -/
inductive Holds : Ty → Ty → Prop where
  | self (t : Ty) : Holds t t
  | part {t p u : Ty} (hp : p ∈ t.parts) (hu : Holds p u) : Holds t u

/-- A type that is known to have no equality, by its form alone. -/
inductive Incomparable : Ty → Prop where
  | float (rooted : Bool) (front : List Segment) {name : String} (h : name ∈ floatTypes) :
    Incomparable (.path rooted front ⟨name, .none⟩)
  | object (isDyn : Bool) (bounds : List Bound) (trailing : Bool) :
    Incomparable (.object isDyn bounds trailing)
  | other {form : TypeForm} (code : Code) (h : form.lacksEquality = true) :
    Incomparable (.other form code)

/-- Nothing that a type holds is known to have no equality. -/
def MayCompare (t : Ty) : Prop := ∀ u, t.Holds u → ¬u.Incomparable

theorem mayCompare_iff {t : Ty} :
    t.MayCompare ↔ ¬t.Incomparable ∧ ∀ p ∈ t.parts, p.MayCompare := by
  constructor
  · intro h
    exact ⟨h t (.self t), fun p hp u hu ↦ h u (.part hp hu)⟩
  · rintro ⟨hform, hparts⟩ u hu
    cases hu with
    | self => exact hform
    | part hp hu => exact hparts _ hp u hu

theorem incomparable_name_iff {rooted : Bool} {front : List Segment} {name : String} :
    (Ty.path rooted front ⟨name, .none⟩).Incomparable ↔ name ∈ floatTypes := by
  constructor
  · rintro ⟨⟩
    assumption
  · exact .float rooted front

theorem incomparable_other_iff {form : TypeForm} {code : Code} :
    (Ty.other form code).Incomparable ↔ form.lacksEquality = true := by
  constructor
  · rintro ⟨⟩
    assumption
  · exact .other code

end Ty

/-! ## The search -/

mutual

/-- **The search finds nothing exactly if there is nothing to find.** -/
theorem Ty.lacksEquality?_eq_none_iff (t : Ty) : t.lacksEquality? = none ↔ t.MayCompare := by
  rw [Ty.mayCompare_iff]
  match t with
  | .path rooted front ⟨name, .none⟩ =>
    rw [Ty.incomparable_name_iff]
    simp [Ty.lacksEquality?, Ty.parts]
  | .path rooted front ⟨name, .angle turbofish args trailing⟩ =>
    rw [Ty.lacksEquality?, Arg.lacksEquality?_eq_none_iff args]
    exact (and_iff_right nofun).symm
  | .qualified front last => exact iff_of_true rfl ⟨nofun, nofun⟩
  | .tuple elems trailing =>
    rw [Ty.lacksEquality?, Ty.lacksEqualityIn?_eq_none_iff elems]
    exact (and_iff_right nofun).symm
  | .reference _ _ t | .array t _ | .slice t | .paren t =>
    rw [Ty.lacksEquality?, Ty.lacksEquality?_eq_none_iff t, and_iff_right nofun, Ty.parts,
      List.forall_mem_singleton]
  | .object isDyn bounds trailing =>
    exact iff_of_false nofun fun h ↦ h.1 (.object isDyn bounds trailing)
  | .other form code =>
    rw [Ty.lacksEquality?, Ty.incomparable_other_iff]
    cases form.lacksEquality <;> simp [Ty.parts]

/-- The search in a list of types finds nothing exactly if it finds nothing in any of them. -/
theorem Ty.lacksEqualityIn?_eq_none_iff (ts : List Ty) :
    Ty.lacksEqualityIn? ts = none ↔ ∀ t ∈ ts, t.MayCompare := by
  match ts with
  | [] => simp [Ty.lacksEqualityIn?]
  | t :: ts =>
    rw [Ty.lacksEqualityIn?, Option.or_eq_none_iff, Ty.lacksEquality?_eq_none_iff t,
      Ty.lacksEqualityIn?_eq_none_iff ts, List.forall_mem_cons]

/-- The search in some arguments finds nothing exactly if it finds nothing in those that are
types. -/
theorem Arg.lacksEquality?_eq_none_iff (as : List Arg) :
    Arg.lacksEquality? as = none ↔ ∀ t ∈ as.filterMap Arg.type?, t.MayCompare := by
  match as with
  | [] => simp [Arg.lacksEquality?]
  | .type t :: as =>
    rw [Arg.lacksEquality?, Option.or_eq_none_iff, Ty.lacksEquality?_eq_none_iff t,
      Arg.lacksEquality?_eq_none_iff as]
    exact List.forall_mem_cons.symm
  | .lifetime _ :: as | .other _ :: as =>
    rw [Arg.lacksEquality?, Arg.lacksEquality?_eq_none_iff as]
    rfl

end

end TypedIds
