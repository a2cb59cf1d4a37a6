import TypedIds.Default

/-!
# Parentheses around the type of a component

Parentheses around a type mean nothing, and most questions that are asked to infer the unspecified
value of a component pass them over: what the type is named, and whether it is known to have no
equality.  Whether it is an `Option` is asked of the type as it is written, so a type in parentheses
never is one.

* `Ty.wrapped` — a type with some pairs of parentheses around it.
* **`ComponentDefault.infer_wrapped`**: parentheses change what is inferred exactly if nothing is
  inferred without them, which is the rule for an `Option`, and they change the type that is written
  out exactly if the type is an `Option`.
-/

set_option autoImplicit false

namespace TypedIds

/-! ## Types in parentheses -/

namespace Ty

/-- The type with `n` pairs of parentheses around it. -/
def wrapped (n : Nat) (t : Ty) : Ty :=
  match n with
  | 0 => t
  | n + 1 => .paren (t.wrapped n)

variable (n : Nat) (t : Ty)

@[simp] theorem strip_wrapped : (t.wrapped n).strip = t.strip := by
  induction n with
  | zero => rfl
  | succ n ih => exact ih

@[simp] theorem lastName?_wrapped : (t.wrapped n).lastName? = t.lastName? := by
  induction n with
  | zero => rfl
  | succ n ih => exact ih

@[simp] theorem lacksEquality?_wrapped : (t.wrapped n).lacksEquality? = t.lacksEquality? := by
  induction n with
  | zero => rfl
  | succ n ih => exact ih

/-- A type in parentheses is not looked into for the argument of an `Option`. -/
@[simp] theorem argumentOf?_paren (name : String) : (paren t).argumentOf? name = none := rfl

/-- What is in parentheses is no greater than all of it. -/
theorem sizeOf_strip_le : sizeOf t.strip ≤ sizeOf t := by
  fun_induction strip t with
  | case1 t ih =>
    rw [paren.sizeOf_spec]
    omega
  | case2 t ht => exact Nat.le_refl _

variable {t}

/-- The type has no parentheses around it if it has an argument, and the argument is smaller. -/
theorem argumentOf?_eq_some {name : String} {u : Ty} (h : t.argumentOf? name = some u) :
    t.strip = t ∧ sizeOf u < sizeOf t := by
  rw [argumentOf?] at h
  split at h
  next m turbofish more trailing hlast =>
    split at h
    · obtain rfl := Option.some.inj h
      cases t <;> cases hlast
      all_goals
        refine ⟨rfl, ?_⟩
        simp only [path.sizeOf_spec, qualified.sizeOf_spec, Segment.mk.sizeOf_spec,
          Args.angle.sizeOf_spec, List.cons.sizeOf_spec, Arg.type.sizeOf_spec]
        omega
    · cases h
  · cases h

/-- A type is a path that ends in this name, and the first argument of the name is a type. -/
def HasArgument (t : Ty) (name : String) (u : Ty) : Prop :=
  ∃ turbofish more trailing,
    t.lastSegment? = some ⟨name, .angle turbofish (.type u :: more) trailing⟩

theorem argumentOf?_eq_some_iff {name : String} {u : Ty} :
    t.argumentOf? name = some u ↔ t.HasArgument name u := by
  rw [argumentOf?]
  constructor
  · intro h
    split at h
    next n turbofish inner more trailing hlast =>
      split at h
      next hname =>
        obtain rfl := eq_of_beq hname
        obtain rfl := Option.some.inj h
        exact ⟨turbofish, more, trailing, hlast⟩
      next => cases h
    next => cases h
  · rintro ⟨turbofish, more, trailing, hlast⟩
    rw [hlast]
    exact if_pos (beq_self_eq_true name)

/-- What is written out for a type in parentheses, but for these, is the same only if the type is
no `Option`. -/
theorem strip_displayed_wrapped_iff :
    (t.wrapped (n + 1)).displayed.strip = t.displayed.strip ↔ t.argumentOf? "Option" = none := by
  have hwrapped : (t.wrapped (n + 1)).displayed = t.wrapped (n + 1) := rfl
  rw [hwrapped, strip_wrapped, displayed]
  cases hu : t.argumentOf? "Option" with
  | none => exact iff_of_true rfl rfl
  | some u =>
    obtain ⟨hstrip, hlt⟩ := argumentOf?_eq_some hu
    refine iff_of_false (fun heq ↦ ?_) nofun
    -- the argument would be the type that it is an argument of
    have hle := sizeOf_strip_le u
    rw [Option.getD_some, hstrip] at heq
    rw [← heq] at hle
    omega

end Ty

/-- The component with `n` pairs of parentheses around its type. -/
def Component.wrapped (n : Nat) (c : Component) : Component := { c with ty := c.ty.wrapped n }

/-! ## What is inferred -/

namespace ComponentDefault

/-- The same rule for another type. -/
def map (f : Ty → Ty) : ComponentDefault → ComponentDefault
  | .identifier t => .identifier (f t)
  | .null => .null
  | .empty member t => .empty member (f t)
  | .default t => .default (f t)

/-- What is inferred by the last two rules, for types that are neither identifiers nor options. -/
def ofName (x : Index) (t : Ty) : ComponentDefault :=
  match t.lastName?.bind (emptyMember? x) with
  | some member => .empty member t
  | none => .default t

theorem infer_eq (x : Index) (c : Component) :
    infer x c =
      if isIdentifier x c.ty then .ok (.identifier c.ty)
      else
        match c.ty.lacksEquality? with
        | some part => .error ⟨.noEquality c.name part.text, c.tySpan⟩
        | none => .ok (if (c.ty.argumentOf? "Option").isSome then .null else ofName x c.ty) := by
  rw [infer, ofName]
  cases isIdentifier x c.ty with
  | true => rfl
  | false =>
    cases c.ty.lacksEquality? with
    | some part => rfl
    | none =>
      cases (c.ty.argumentOf? "Option").isSome with
      | true => rfl
      | false => cases c.ty.lastName?.bind (emptyMember? x) <;> rfl

theorem ofName_ne_null (x : Index) (t : Ty) : ofName x t ≠ .null := by
  rw [ofName]
  split <;> exact nofun

theorem map_ofName (x : Index) (t : Ty) (n : Nat) :
    (ofName x t).map (.wrapped n) = ofName x (t.wrapped n) := by
  rw [ofName, ofName, Ty.lastName?_wrapped]
  split <;> rfl

/-- **When parentheses matter.**  With parentheses around its type the same is inferred for a
component as without them, or the same problem is found, unless it is the null rule that applies;
then it is one of the last two rules that applies to the type in parentheses.  The type that is
written out is the same, up to parentheses, unless it is that inside an `Option`. -/
theorem infer_wrapped (x : Index) (c : Component) (n : Nat) :
    (infer x (c.wrapped (n + 1)) = (infer x c).map (map (.wrapped (n + 1))) ↔
        infer x c ≠ .ok .null) ∧
      (infer x c = .ok .null →
        infer x (c.wrapped (n + 1)) = .ok (ofName x (c.ty.wrapped (n + 1)))) ∧
      ((c.wrapped (n + 1)).ty.displayed.strip = c.ty.displayed.strip ↔
        c.ty.argumentOf? "Option" = none) := by
  have hty : (c.wrapped (n + 1)).ty = c.ty.wrapped (n + 1) := rfl
  have hidentifier : isIdentifier x (c.ty.wrapped (n + 1)) = isIdentifier x c.ty := by
    rw [isIdentifier, isIdentifier, Ty.lastName?_wrapped]
  have hargument : (c.ty.wrapped (n + 1)).argumentOf? "Option" = none := Ty.argumentOf?_paren _ _
  rw [infer_eq, infer_eq, hty, hidentifier, Ty.lacksEquality?_wrapped, hargument, ← and_assoc]
  refine ⟨?_, Ty.strip_displayed_wrapped_iff n⟩
  cases isIdentifier x c.ty with
  | true => exact ⟨iff_of_true rfl nofun, nofun⟩
  | false =>
    simp only [Bool.false_eq_true, if_false]
    cases c.ty.lacksEquality? with
    | some part => exact ⟨iff_of_true rfl nofun, nofun⟩
    | none =>
      cases (c.ty.argumentOf? "Option").isSome with
      | true =>
        refine ⟨iff_of_false (fun h ↦ ?_) fun h ↦ h rfl, fun _ ↦ rfl⟩
        exact ofName_ne_null _ _ (Except.ok.inj h)
      | false =>
        have hne : ofName x c.ty ≠ .null := ofName_ne_null _ _
        refine ⟨iff_of_true ?_ fun h ↦ hne (Except.ok.inj h), fun h ↦ ?_⟩
        · exact congrArg Except.ok (map_ofName _ _ _).symm
        · exact absurd (Except.ok.inj h) hne

/-- The component `a: Option<u8>`. -/
def optionalByte : Component where
  name := "a"
  ty := .path false [] ⟨"Option", .angle false [.type (Path.ofNames false [] "u8").toTy] false⟩
  span := .nowhere
  tySpan := .nowhere

/-- Nothing is inferred for an `Option`, but for one in parentheses it is the default of the type,
and the whole of the type is written out for it. -/
theorem infer_wrapped_optionalByte :
    infer .empty optionalByte = .ok .null ∧
      infer .empty (optionalByte.wrapped 1) = .ok (.default (.paren optionalByte.ty)) ∧
      optionalByte.ty.displayed = (Path.ofNames false [] "u8").toTy ∧
      (optionalByte.wrapped 1).ty.displayed = .paren optionalByte.ty := ⟨rfl, rfl, rfl, rfl⟩

end ComponentDefault

end TypedIds
