import TypedIds.Proofs.Declaration.Accepted
import TypedIds.Proofs.Default.Equality
import TypedIds.Proofs.Default.Parentheses
import TypedIds.Proofs.Module.Blocks

/-!
# Components that are refused

Combined identifiers are compared by their components, so a component is refused if its type holds a
part that is known to have no equality.  Identifiers always have equality; a type that is named like
one is not looked into.

Which part a refusal names is said by addresses.  An address goes down into a type, from part to
part (`Ty.at?`), and addresses are ordered as words are in a dictionary (`List.Lex`): a type comes
before its parts, and a part with all that it holds before the parts on its right.  Where it points
to is the span of the type, which goes from its first token to its last (`MarkerEntry.Spelled`).

* `Ty.lacksEquality?_eq_some_iff` — the search finds the part with the least address.
* **`ComponentDefault.inferAll_refuses`**: values are inferred for some components, one for each,
  unless one of them is refused; then the error is about the first of these, points to the whole of
  its type, and names the first part of it that has no equality.
-/

set_option autoImplicit false

namespace TypedIds

namespace Ty

/-! ## Addresses -/

/-- The part of a type at an address: each number tells which part to go to, from the outside in. -/
def at? : Ty → (address : List Nat) → Option Ty
  | t, [] => some t
  | t, i :: address => t.parts[i]?.bind fun p ↦ p.at? address

/-- The part of a type that is known to have no equality; of several such parts, the one that stands
leftmost and outermost. -/
def FirstIncomparable (t u : Ty) : Prop :=
  ∃ a, t.at? a = some u ∧ u.Incomparable ∧
    ∀ b v, t.at? b = some v → v.Incomparable → ¬List.Lex (· < ·) b a

variable {t u : Ty}

theorem at?_cons_eq_some_iff {i : Nat} {a : List Nat} :
    t.at? (i :: a) = some u ↔ ∃ p, t.parts[i]? = some p ∧ p.at? a = some u :=
  Option.bind_eq_some_iff

/-- A type holds what stands at some address in it. -/
theorem holds_iff_exists_at? : t.Holds u ↔ ∃ a, t.at? a = some u := by
  constructor
  · intro h
    induction h with
    | self t => exact ⟨[], rfl⟩
    | part hp _ ih =>
      obtain ⟨i, hi⟩ := List.getElem?_of_mem hp
      obtain ⟨a, ha⟩ := ih
      exact ⟨i :: a, at?_cons_eq_some_iff.mpr ⟨_, hi, ha⟩⟩
  · rintro ⟨a, ha⟩
    induction a generalizing t with
    | nil =>
      obtain rfl := Option.some.inj ha
      exact .self t
    | cons i a ih =>
      obtain ⟨p, hp, hpa⟩ := at?_cons_eq_some_iff.mp ha
      exact .part (List.mem_of_getElem? hp) (ih hpa)

/-- There is one first part at most. -/
theorem FirstIncomparable.unique {v : Ty} (hu : t.FirstIncomparable u)
    (hv : t.FirstIncomparable v) : u = v := by
  obtain ⟨a, hau, hu, hleast⟩ := hu
  obtain ⟨b, hbv, hv, hleast'⟩ := hv
  have hantisymm (i j : Nat) (hij : ¬i < j) (hji : ¬j < i) : i = j := by omega
  have hab : a = b := List.lex_trichotomous hantisymm (hleast b v hbv hv) (hleast' a u hau hu)
  rw [hab, hbv] at hau
  exact (Option.some.inj hau).symm

/-- A part is smaller than the type it is a part of. -/
theorem sizeOf_lt_of_mem_parts {p : Ty} (h : p ∈ t.parts) : sizeOf p < sizeOf t := by
  match t with
  | .path rooted front ⟨name, .angle turbofish args trailing⟩ =>
    obtain ⟨a, ha, hp⟩ := List.mem_filterMap.mp h
    have hlt := List.sizeOf_lt_of_mem ha
    cases a with
    | type t =>
      obtain rfl := Option.some.inj hp
      simp only [Arg.type.sizeOf_spec] at hlt
      simp only [path.sizeOf_spec, Segment.mk.sizeOf_spec, Args.angle.sizeOf_spec]
      omega
    | lifetime name => cases hp
    | other code => cases hp
  | .tuple elems trailing =>
    have hlt : sizeOf p < sizeOf elems := List.sizeOf_lt_of_mem h
    simp only [tuple.sizeOf_spec]
    omega
  | .reference _ _ t | .array t _ | .slice t | .paren t =>
    obtain rfl := List.mem_singleton.mp h
    simp only [reference.sizeOf_spec, array.sizeOf_spec, slice.sizeOf_spec, paren.sizeOf_spec]
    omega

end Ty

/-! ## The search finds the first part -/

theorem Ty.lacksEqualityIn?_eq (ts : List Ty) :
    Ty.lacksEqualityIn? ts = ts.findSome? Ty.lacksEquality? := by
  induction ts with
  | nil => rfl
  | cons t ts ih =>
    rw [Ty.lacksEqualityIn?, List.findSome?_cons, ih]
    cases t.lacksEquality? <;> rfl

theorem Arg.lacksEquality?_eq (as : List Arg) :
    Arg.lacksEquality? as = (as.filterMap Arg.type?).findSome? Ty.lacksEquality? := by
  induction as with
  | nil => rfl
  | cons a as ih =>
    cases a with
    | type t =>
      have htype : (Arg.type t :: as).filterMap Arg.type? = t :: as.filterMap Arg.type? := rfl
      rw [Arg.lacksEquality?, ih, htype, List.findSome?_cons]
      cases t.lacksEquality? <;> rfl
    | lifetime name => exact ih
    | other code => exact ih

namespace Ty

variable {t u : Ty}

/-- A type that has no equality by its form is found itself. -/
theorem lacksEquality?_of_incomparable (h : t.Incomparable) : t.lacksEquality? = some t := by
  cases h with
  | float rooted front h => simp [lacksEquality?, h]
  | object isDyn bounds trailing => rfl
  | other code h => simp [lacksEquality?, h]

/-- In any other type the search goes from part to part. -/
theorem lacksEquality?_of_not_incomparable (h : ¬t.Incomparable) :
    t.lacksEquality? = t.parts.findSome? lacksEquality? := by
  match t with
  | .path rooted front ⟨name, .none⟩ =>
    rw [incomparable_name_iff] at h
    simp [lacksEquality?, parts, h]
  | .path rooted front ⟨name, .angle turbofish args trailing⟩ => exact Arg.lacksEquality?_eq args
  | .qualified front last => rfl
  | .tuple elems trailing => exact lacksEqualityIn?_eq elems
  | .reference _ _ t | .array t _ | .slice t | .paren t =>
    rw [lacksEquality?, parts, List.findSome?_singleton]
  | .object isDyn bounds trailing => exact absurd (.object isDyn bounds trailing) h
  | .other form code =>
    rw [incomparable_other_iff] at h
    simp [lacksEquality?, parts, h]

/-- What the search finds has the least address of all that it could find. -/
theorem firstIncomparable_of_lacksEquality? {t u : Ty} (h : t.lacksEquality? = some u) :
    t.FirstIncomparable u := by
  by_cases ht : t.Incomparable
  · rw [lacksEquality?_of_incomparable ht] at h
    obtain rfl := Option.some.inj h
    exact ⟨[], rfl, ht, fun _ _ _ _ ↦ List.not_lex_nil⟩
  · rw [lacksEquality?_of_not_incomparable ht, List.findSome?_eq_some_iff] at h
    obtain ⟨before, p, after, hparts, hp, hbefore⟩ := h
    have hlt : sizeOf p < sizeOf t := sizeOf_lt_of_mem_parts (by simp [hparts])
    obtain ⟨a, ha, hu, hleast⟩ := firstIncomparable_of_lacksEquality? hp
    have hat : t.parts[before.length]? = some p := by simp [hparts]
    refine ⟨before.length :: a, at?_cons_eq_some_iff.mpr ⟨p, hat, ha⟩, hu, fun b v hb hv ↦ ?_⟩
    cases b with
    | nil =>
      obtain rfl := Option.some.inj hb
      exact absurd hv ht
    | cons j b =>
      obtain ⟨q, hq, hqv⟩ := at?_cons_eq_some_iff.mp hb
      rw [List.cons_lex_cons_iff]
      rintro (hj | ⟨rfl, hlex⟩)
      · -- nothing has been found in the parts before `p`
        have hmem : q ∈ before := by
          rw [hparts, List.getElem?_append_left hj] at hq
          exact List.mem_of_getElem? hq
        have hnone := (lacksEquality?_eq_none_iff q).mp (hbefore q hmem)
        exact absurd hv (hnone v (holds_iff_exists_at?.mpr ⟨b, hqv⟩))
      · rw [hat] at hq
        obtain rfl := Option.some.inj hq
        exact hleast b v hqv hv hlex
termination_by sizeOf t

theorem lacksEquality?_eq_some_iff : t.lacksEquality? = some u ↔ t.FirstIncomparable u := by
  refine ⟨firstIncomparable_of_lacksEquality?, fun h ↦ ?_⟩
  cases hfound : t.lacksEquality? with
  | none =>
    obtain ⟨a, ha, hu, -⟩ := h
    have hnone := (lacksEquality?_eq_none_iff t).mp hfound
    exact absurd hu (hnone u (holds_iff_exists_at?.mpr ⟨a, ha⟩))
  | some v => rw [(firstIncomparable_of_lacksEquality? hfound).unique h]

end Ty

/-! ## Refusals -/

/-- A component is refused: its type is not named like an identifier, and holds a part that is known
to have no equality. -/
def Component.IsRefused (x : Index) (c : Component) : Prop :=
  (∀ name ∈ c.ty.strip.pathName?, name ∉ x.identifiers) ∧ ∃ u, c.ty.Holds u ∧ u.Incomparable

namespace ComponentDefault

variable (x : Index)

theorem isIdentifier_eq_false_iff {t : Ty} :
    isIdentifier x t = false ↔ ∀ name ∈ t.strip.pathName?, name ∉ x.identifiers := by
  rw [isIdentifier, Ty.pathName?_strip]
  cases t.lastName? with
  | none => simp
  | some name => simp [Index.isIdentifier]

theorem isRefused_iff {c : Component} :
    c.IsRefused x ↔ isIdentifier x c.ty = false ∧ ∃ part, c.ty.lacksEquality? = some part := by
  rw [Component.IsRefused, isIdentifier_eq_false_iff]
  refine and_congr_right fun _ ↦ ?_
  rw [← Option.isSome_iff_exists, ← not_iff_not, Option.not_isSome_iff_eq_none,
    Ty.lacksEquality?_eq_none_iff, Ty.MayCompare]
  simp only [not_exists, not_and]

/-- The problem that is found with a component. -/
theorem infer_eq_error_iff {c : Component} {d : Diagnostic} :
    infer x c = .error d ↔
      c.IsRefused x ∧ ∃ part, c.ty.FirstIncomparable part ∧
        d = ⟨.noEquality c.name part.text, c.tySpan⟩ := by
  rw [isRefused_iff, infer_eq]
  simp only [← Ty.lacksEquality?_eq_some_iff]
  cases isIdentifier x c.ty with
  | true => simp
  | false =>
    cases c.ty.lacksEquality? with
    | none => simp
    | some part => simpa using eq_comm

/-- A value is inferred for a component, unless the component is refused. -/
theorem exists_infer_eq_ok_iff {c : Component} :
    (∃ v, infer x c = .ok v) ↔ ¬c.IsRefused x := by
  rw [isRefused_iff, infer_eq]
  cases isIdentifier x c.ty with
  | true => simp
  | false => cases c.ty.lacksEquality? <;> simp

/-- The problem that is found with some components is that of the first which is refused. -/
theorem inferAll_eq_error_iff {cs : List Component} {d : Diagnostic} :
    inferAll x cs = .error d ↔
      ∃ (front : List Component) (c : Component) (back : List Component),
        cs = front ++ c :: back ∧ (∀ b ∈ front, ¬b.IsRefused x) ∧ infer x c = .error d := by
  induction cs with
  | nil => simp [inferAll, pure, Except.pure]
  | cons c cs ih =>
    cases hc : infer x c with
    | error e =>
      have hall : inferAll x (c :: cs) = .error e := by
        rw [inferAll, List.mapM_cons, hc]
        rfl
      rw [hall]
      constructor
      · intro h
        obtain rfl := Except.error.inj h
        exact ⟨[], c, cs, rfl, List.forall_mem_nil _, hc⟩
      · rintro ⟨front, b, back, hcs, hfront, hb⟩
        cases front with
        | nil =>
          obtain ⟨rfl, -⟩ := List.cons.inj hcs
          rw [Except.error.inj (hc.symm.trans hb)]
        | cons a front =>
          obtain ⟨rfl, -⟩ := List.cons.inj hcs
          exact absurd ((infer_eq_error_iff x).mp hc).1 (hfront c List.mem_cons_self)
    | ok v =>
      have hrefused : ¬c.IsRefused x := (exists_infer_eq_ok_iff x).mp ⟨v, hc⟩
      have hall : inferAll x (c :: cs) = (inferAll x cs).map (v :: ·) := by
        rw [inferAll, List.mapM_cons, hc, inferAll]
        cases cs.mapM (infer x) <;> rfl
      have herror : inferAll x (c :: cs) = .error d ↔ inferAll x cs = .error d := by
        rw [hall]
        cases inferAll x cs <;> simp [Except.map]
      rw [herror, ih]
      constructor
      · rintro ⟨front, b, back, rfl, hfront, hb⟩
        exact ⟨c :: front, b, back, rfl, List.forall_mem_cons.mpr ⟨hrefused, hfront⟩, hb⟩
      · rintro ⟨front, b, back, hcs, hfront, hb⟩
        cases front with
        | nil =>
          obtain ⟨rfl, -⟩ := List.cons.inj hcs
          rw [hc] at hb
          cases hb
        | cons a front =>
          obtain ⟨rfl, rfl⟩ := List.cons.inj hcs
          exact ⟨front, b, back, rfl, (List.forall_mem_cons.mp hfront).2, hb⟩

/-- **When components are refused.**  Values are inferred for some components exactly if none of
them is refused, one for each in order.  Otherwise the error is about the first that is refused: it
points to the whole of its type and names the part of it, leftmost and outermost, that is known to
have no equality. -/
theorem inferAll_refuses (cs : List Component) :
    ((∃ d, inferAll x cs = .error d) ↔ ∃ c ∈ cs, c.IsRefused x) ∧
      (∀ d, inferAll x cs = .error d ↔
        ∃ (front : List Component) (c : Component) (back : List Component) (part : Ty),
          cs = front ++ c :: back ∧ (∀ b ∈ front, ¬b.IsRefused x) ∧ c.IsRefused x ∧
            c.ty.FirstIncomparable part ∧ d = ⟨.noEquality c.name part.text, c.tySpan⟩) ∧
      ∀ vs, inferAll x cs = .ok vs ↔ List.Forall₂ (fun c v ↦ infer x c = .ok v) cs vs := by
  refine ⟨⟨?_, ?_⟩, fun d ↦ ?_, fun vs ↦ inferAll_eq_ok_iff⟩
  · rintro ⟨d, hd⟩
    obtain ⟨front, c, back, rfl, -, hc⟩ := (inferAll_eq_error_iff x).mp hd
    exact ⟨c, by simp, ((infer_eq_error_iff x).mp hc).1⟩
  · rintro ⟨c, hc, hrefused⟩
    cases hall : inferAll x cs with
    | error d => exact ⟨d, rfl⟩
    | ok vs =>
      have hboth := (inferAll_eq_ok_iff.mp hall).imp fun c v hv ↦
        And.intro ((exists_infer_eq_ok_iff x).mp ⟨v, hv⟩) hv
      exact absurd hrefused (((List.forall₂_and_left _ _).mp hboth).1 c hc)
  · simp only [inferAll_eq_error_iff, infer_eq_error_iff, exists_and_left]

end ComponentDefault

end TypedIds
