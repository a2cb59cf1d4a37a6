import TypedIds.Grammar.Type.Comparison

/-!
# Redundant parentheses

Parentheses around a type mean nothing.  Comparing types passes them over where it goes on inside of
a type, which is in tuples and references.  Types of different forms it compares by their texts, and
there the parentheses inside are seen; this does not matter, because the text of a type tells its
form: what is written like a tuple is one.

* `Ty.bare` — a type without all those parentheses.
* `Ty.Discernible` — the parts of two types that have the same text have the same form.
* `Ty.alike` — comparing types as if no text were shared by types of different forms.
* **`Ty.same_congr`**: types without which parentheses are the same compare alike.
-/

set_option autoImplicit false

namespace TypedIds.Ty

/-! ## Types without parentheses -/

mutual

/-- A type without the parentheses around it, and around whatever is reached through tuples and
references. -/
def bare : Ty → Ty
  | .paren t => t.bare
  | .tuple elems trailing => .tuple (bareAll elems) trailing
  | .reference lifetime isMut target => .reference lifetime isMut target.bare
  | t => t

/-- Types without parentheses. -/
def bareAll : List Ty → List Ty
  | [] => []
  | t :: ts => t.bare :: bareAll ts

end

/-- What a type is apart from parentheses, as far as comparing goes on inside of it. -/
inductive Form where
  | tuple
  | reference
  | other
  deriving DecidableEq

/-- The form of a type. -/
def form : Ty → Form
  | .paren t => t.form
  | .tuple .. => .tuple
  | .reference .. => .reference
  | _ => .other

mutual

/-- A type without parentheses around it, and all that are reached through tuples and references. -/
def reached : Ty → List Ty
  | .paren t => t.reached
  | .tuple elems trailing => .tuple elems trailing :: reachedAll elems
  | .reference lifetime isMut target => .reference lifetime isMut target :: target.reached
  | t => [t]

/-- All types that are reached from some. -/
def reachedAll : List Ty → List Ty
  | [] => []
  | t :: ts => t.reached ++ reachedAll ts

end

/-- The form of what is reached in two types can be told by the texts. -/
def Discernible (a b : Ty) : Prop :=
  ∀ t ∈ a.reached, ∀ u ∈ b.reached, t.text = u.text → t.form = u.form

theorem strip_ne_paren : ∀ t u : Ty, t.strip ≠ .paren u
  | .paren t, u => strip_ne_paren t u
  | .path .., _ | .qualified .., _ | .tuple .., _ | .reference .., _ | .array .., _ | .slice _, _
  | .object .., _ | .other .., _ => nofun

instance (a b : Ty) : Decidable (Discernible a b) :=
  inferInstanceAs (Decidable (∀ t ∈ a.reached, ∀ u ∈ b.reached, t.text = u.text → t.form = u.form))

@[simp] theorem strip_strip : ∀ t : Ty, t.strip.strip = t.strip
  | .paren t => strip_strip t
  | .path .. | .qualified .. | .tuple .. | .reference .. | .array .. | .slice _ | .object ..
  | .other .. => rfl

@[simp] theorem form_strip : ∀ t : Ty, t.strip.form = t.form
  | .paren t => form_strip t
  | .path .. | .qualified .. | .tuple .. | .reference .. | .array .. | .slice _ | .object ..
  | .other .. => rfl

@[simp] theorem bare_strip : ∀ t : Ty, t.strip.bare = t.bare
  | .paren t => bare_strip t
  | .path .. | .qualified .. | .tuple .. | .reference .. | .array .. | .slice _ | .object ..
  | .other .. => rfl

@[simp] theorem strip_bare : ∀ t : Ty, t.bare.strip = t.bare
  | .paren t => strip_bare t
  | .path .. | .qualified .. | .tuple .. | .reference .. | .array .. | .slice _ | .object ..
  | .other .. => rfl

@[simp] theorem form_bare : ∀ t : Ty, t.bare.form = t.form
  | .paren t => form_bare t
  | .path .. | .qualified .. | .tuple .. | .reference .. | .array .. | .slice _ | .object ..
  | .other .. => rfl

@[simp] theorem reached_strip : ∀ t : Ty, t.strip.reached = t.reached
  | .paren t => reached_strip t
  | .path .. | .qualified .. | .tuple .. | .reference .. | .array .. | .slice _ | .object ..
  | .other .. => rfl

theorem strip_mem_reached : ∀ t : Ty, t.strip ∈ t.reached
  | .paren t => strip_mem_reached t
  | .path .. | .qualified .. | .tuple .. | .reference .. | .array .. | .slice _ | .object ..
  | .other .. => List.mem_cons_self

/-- A type of no form that comparing goes on inside of is its own bare type. -/
theorem bare_of_form : ∀ t : Ty, t.form = .other → t.bare = t.strip
  | .paren t, h => bare_of_form t h
  | .path .., _ | .qualified .., _ | .array .., _ | .slice _, _ | .object .., _
  | .other .., _ => rfl

/-! ## Comparing by form -/

mutual

/-- Whether two types are the same, given that types of different forms are not. -/
def alike : Ty → Ty → Bool
  | .paren a, b => alike a b
  | .tuple elems _, b =>
    match b.strip with
    | .tuple elems' _ => alikeAll elems elems'
    | _ => false
  | .reference _ isMut target, b =>
    match b.strip with
    | .reference _ isMut' target' => isMut == isMut' && alike target target'
    | _ => false
  | a, b => decide (b.form = .other) && same a b

/-- Whether two lists hold the same types, given that types of different forms are not. -/
def alikeAll : List Ty → List Ty → Bool
  | [], [] => true
  | a :: as, b :: bs => alike a b && alikeAll as bs
  | _, _ => false

end

theorem same_strip_left : ∀ a b : Ty, same a.strip b = same a b
  | .paren a, b => same_strip_left a b
  | .path .., _ | .qualified .., _ | .tuple .., _ | .reference .., _ | .array .., _ | .slice _, _
  | .object .., _ | .other .., _ => rfl

theorem same_strip_right : ∀ a b : Ty, same a b.strip = same a b
  | .paren a, b => same_strip_right a b
  | .path .., b | .qualified .., b | .tuple .., b | .reference .., b | .array .., b | .slice _, b
  | .object .., b | .other .., b => by simp only [same, strip_strip]

/-- What comparing does not go on inside of is compared as a whole. -/
theorem alike_of_form : ∀ a b : Ty, a.form = .other →
    alike a b = (decide (b.form = .other) && same a b)
  | .paren a, b, h => alike_of_form a b h
  | .path .., _, _ | .qualified .., _, _ | .array .., _, _ | .slice _, _, _ | .object .., _, _
  | .other .., _, _ => rfl

theorem alike_bare_of_form {a : Ty} (b : Ty) (h : a.form = .other) :
    alike a.bare b.bare = alike a b := by
  rw [alike_of_form a b h, alike_of_form a.bare b.bare ((form_bare a).trans h), form_bare,
    bare_of_form a h, same_strip_left]
  by_cases hb : b.form = .other
  · rw [bare_of_form b hb, same_strip_right]
  · rw [decide_eq_false hb, Bool.false_and, Bool.false_and]

mutual

/-- Comparing by form does not see parentheses. -/
theorem alike_bare (a b : Ty) : alike a.bare b.bare = alike a b := by
  match a with
  | .paren a => exact alike_bare a b
  | .tuple elems trailing =>
    rw [bare, alike, alike, strip_bare, ← bare_strip b]
    cases hb : b.strip with
    | paren u => exact absurd hb (strip_ne_paren b u)
    | tuple elems' trailing' => exact alikeAll_bare elems elems'
    | _ => rfl
  | .reference lifetime isMut target =>
    rw [bare, alike, alike, strip_bare, ← bare_strip b]
    cases hb : b.strip with
    | paren u => exact absurd hb (strip_ne_paren b u)
    | reference lifetime' isMut' target' =>
      exact congrArg (isMut == isMut' && ·) (alike_bare target target')
    | _ => rfl
  | .path .. | .qualified .. | .array .. | .slice _ | .object .. | .other .. =>
    exact alike_bare_of_form b rfl

theorem alikeAll_bare (as bs : List Ty) : alikeAll (bareAll as) (bareAll bs) = alikeAll as bs := by
  match as, bs with
  | [], [] => rfl
  | a :: as, b :: bs =>
    rw [bareAll, bareAll, alikeAll, alikeAll, alike_bare a b, alikeAll_bare as bs]
  | [], _ :: _ | _ :: _, [] => rfl

end

/-! ## Comparing by text -/

theorem mem_reachedAll {t u : Ty} {ts : List Ty} (ht : t ∈ ts) (hu : u ∈ t.reached) :
    u ∈ reachedAll ts := by
  induction ts with
  | nil => cases ht
  | cons v ts ih =>
    rw [reachedAll, List.mem_append]
    obtain rfl | ht := List.mem_cons.mp ht
    · exact .inl hu
    · exact .inr (ih ht)

namespace Discernible

variable {a b : Ty}

theorem strip_right (h : Discernible a b) : Discernible a b.strip := by
  rwa [Discernible, reached_strip]

/-- Types of different forms have different texts. -/
theorem text_ne (h : Discernible a b) (hform : a.form ≠ b.form) :
    (a.strip.text == b.strip.text) = false := by
  refine beq_false_of_ne fun htext ↦ hform ?_
  have hsame := h a.strip (strip_mem_reached a) b.strip (strip_mem_reached b) htext
  rwa [form_strip, form_strip] at hsame

theorem elements {elems elems' : List Ty} {trailing trailing' : Bool}
    (h : Discernible (.tuple elems trailing) (.tuple elems' trailing')) :
    ∀ t ∈ elems, ∀ u ∈ elems', Discernible t u := fun _ ht _ hu v hv w hw ↦
  h v (List.mem_cons_of_mem _ (mem_reachedAll ht hv)) w
    (List.mem_cons_of_mem _ (mem_reachedAll hu hw))

theorem target {lifetime lifetime' : Option String} {isMut isMut' : Bool}
    (h : Discernible (.reference lifetime isMut a) (.reference lifetime' isMut' b)) :
    Discernible a b := fun v hv w hw ↦
  h v (List.mem_cons_of_mem _ hv) w (List.mem_cons_of_mem _ hw)

end Discernible

/-- Types of different forms are compared by their texts. -/
theorem same_of_form_ne : ∀ a b : Ty, a.form ≠ b.form →
    same a b = (a.strip.text == b.strip.text)
  | .paren a, b, h => same_of_form_ne a b h
  | .path .., b, h | .tuple .., b, h | .reference .., b, h => by
    rw [← form_strip b] at h
    rw [same]
    cases hb : b.strip <;> first | rfl | exact absurd (by rw [hb]; rfl) h
  | .qualified .., _, _ | .array .., _, _ | .slice _, _, _ | .object .., _, _
  | .other .., _, _ => rfl

/-- Types of different forms are not the same. -/
theorem alike_of_form_ne : ∀ a b : Ty, a.form ≠ b.form → alike a b = false
  | .paren a, b, h => alike_of_form_ne a b h
  | .tuple .., b, h | .reference .., b, h => by
    rw [← form_strip b] at h
    rw [alike]
    cases hb : b.strip <;> first | rfl | exact absurd (by rw [hb]; rfl) h
  | .path .., b, h | .qualified .., b, h | .array .., b, h | .slice _, b, h | .object .., b, h
  | .other .., b, h => by
    have hb : ¬b.form = .other := Ne.symm h
    rw [alike_of_form _ b rfl, decide_eq_false hb, Bool.false_and]

mutual

/-- Comparing types is comparing them by form, if their texts tell the forms. -/
theorem same_eq_alike (a b : Ty) (h : Discernible a b) : same a b = alike a b := by
  by_cases hform : a.form = b.form
  · match a with
    | .paren a => exact same_eq_alike a b h
    | .tuple elems trailing =>
      rw [← form_strip b] at hform
      rw [same, alike]
      cases hb : b.strip with
      | paren u => exact absurd hb (strip_ne_paren b u)
      | tuple elems' trailing' =>
        exact sameAll_eq_alikeAll elems elems' (hb ▸ h.strip_right).elements
      | _ => exact absurd hform (by rw [hb]; nofun)
    | .reference lifetime isMut target =>
      rw [← form_strip b] at hform
      rw [same, alike]
      cases hb : b.strip with
      | paren u => exact absurd hb (strip_ne_paren b u)
      | reference lifetime' isMut' target' =>
        exact congrArg (isMut == isMut' && ·)
          (same_eq_alike target target' (hb ▸ h.strip_right).target)
      | _ => exact absurd hform (by rw [hb]; nofun)
    | .path .. | .qualified .. | .array .. | .slice _ | .object .. | .other .. =>
      rw [alike_of_form _ b rfl, ← hform]
      rfl
  · rw [same_of_form_ne a b hform, alike_of_form_ne a b hform, h.text_ne hform]

theorem sameAll_eq_alikeAll (as bs : List Ty) (h : ∀ a ∈ as, ∀ b ∈ bs, Discernible a b) :
    sameAll as bs = alikeAll as bs := by
  match as, bs with
  | [], [] => rfl
  | a :: as, b :: bs =>
    have hhead := h a List.mem_cons_self b List.mem_cons_self
    have htail : ∀ t ∈ as, ∀ u ∈ bs, Discernible t u := fun t ht u hu ↦
      h t (List.mem_cons_of_mem a ht) u (List.mem_cons_of_mem b hu)
    rw [sameAll, alikeAll, same_eq_alike a b hhead, sameAll_eq_alikeAll as bs htail]
  | [], _ :: _ | _ :: _, [] => rfl

end

/-- **Comparing types does not see redundant parentheses.** -/
theorem same_congr {a a' b b' : Ty} (h : Discernible a b) (h' : Discernible a' b')
    (ha : a.bare = a'.bare) (hb : b.bare = b'.bare) : same a b = same a' b' := by
  rw [same_eq_alike a b h, same_eq_alike a' b' h', ← alike_bare a b, ← alike_bare a' b', ha, hb]

theorem sameAll_congr {as as' bs bs' : List Ty} (h : ∀ a ∈ as, ∀ b ∈ bs, Discernible a b)
    (h' : ∀ a ∈ as', ∀ b ∈ bs', Discernible a b) (ha : bareAll as = bareAll as')
    (hb : bareAll bs = bareAll bs') : sameAll as bs = sameAll as' bs' := by
  rw [sameAll_eq_alikeAll as bs h, sameAll_eq_alikeAll as' bs' h', ← alikeAll_bare as bs,
    ← alikeAll_bare as' bs', ha, hb]

theorem sameAll_eq_zip (as bs : List Ty) :
    sameAll as bs = (as.length == bs.length && (as.zip bs).all fun (a, b) ↦ same a b) := by
  induction as generalizing bs with
  | nil => cases bs <;> rfl
  | cons a as ih =>
    cases bs with
    | nil => rfl
    | cons b bs =>
      have hlength : (as.length + 1 == bs.length + 1) = (as.length == bs.length) := by simp
      simp only [sameAll, ih, List.length_cons, List.zip_cons_cons, List.all_cons, hlength,
        Bool.and_left_comm]

end TypedIds.Ty
