import Mathlib
import TypedIds.Proofs.Grammar.Form

/-!
# Types that match

Comparing types is a matching relation: it is reflexive and symmetric, and it does not see
parentheses.  It is not transitive, since a short path matches longer ones that do not match each
other; but two paths match if both match a third one that is as long as each of them.

All of it follows from one equation, `Ty.same_eq`, which says what comparing two types is when the
parentheses around both have been taken away.
-/

set_option autoImplicit false

namespace TypedIds.Ty

/-! ## Paths -/

/-- The names of an unqualified path and their arguments, as texts. -/
def segments? (t : Ty) : Option (List String) :=
  match t.strip with
  | .path _ front last => some (segmentTexts front last)
  | _ => none

theorem endsAlike_iff {xs ys : List String} : endsAlike xs ys = true ↔ xs <:+ ys ∨ ys <:+ xs := by
  rw [endsAlike, Bool.or_eq_true, List.isSuffixOf_iff_suffix, List.isSuffixOf_iff_suffix]

theorem endsAlike_comm (xs ys : List String) : endsAlike xs ys = endsAlike ys xs :=
  Bool.or_comm _ _

/-- Parts at the end of one list end alike. -/
theorem endsAlike_of_endsAlike {xs ys zs : List String} (hx : endsAlike xs zs = true)
    (hy : endsAlike ys zs = true) (hxlength : xs.length ≤ zs.length)
    (hylength : ys.length ≤ zs.length) : endsAlike xs ys = true := by
  have hsuffix {ws : List String} (h : endsAlike ws zs = true) (hlength : ws.length ≤ zs.length) :
      ws <:+ zs := by
    rcases endsAlike_iff.1 h with h | h
    · exact h
    · exact (h.eq_of_length_le hlength) ▸ List.suffix_rfl
  exact endsAlike_iff.2 <|
    List.suffix_or_suffix_of_suffix (hsuffix hx hxlength) (hsuffix hy hylength)

/-! ## One equation -/

/-- What comparing two types is, the parentheses around both having been taken away. -/
theorem same_eq (a b : Ty) :
    same a b =
      match a.strip, b.strip with
      | .path _ front last, .path _ front' last' =>
        endsAlike (segmentTexts front last) (segmentTexts front' last')
      | .tuple elems _, .tuple elems' _ => sameAll elems elems'
      | .reference _ isMut target, .reference _ isMut' target' =>
        isMut == isMut' && same target target'
      | a, b => a.text == b.text := by
  rw [← same_strip_left, ← same_strip_right]
  cases ha : a.strip with
  | paren u => exact absurd ha (strip_ne_paren a u)
  | _ =>
    cases hb : b.strip with
    | paren u => exact absurd hb (strip_ne_paren b u)
    | _ => rfl

/-! ## Reflexivity and symmetry -/

mutual

theorem same_self : ∀ t : Ty, same t t = true
  | .paren t => by rw [same, ← same_strip_right, strip, same_strip_right, same_self t]
  | .path rooted front last => endsAlike_iff.2 (.inl List.suffix_rfl)
  | .tuple elems trailing => sameAll_self elems
  | .reference lifetime isMut target => by
    rw [same_eq]
    dsimp only [strip]
    rw [same_self target, beq_self_eq_true, Bool.and_true]
  | .qualified .. | .array .. | .slice _ | .object .. | .other .. => beq_self_eq_true _

theorem sameAll_self : ∀ ts : List Ty, sameAll ts ts = true
  | [] => rfl
  | t :: ts => by rw [sameAll, same_self t, sameAll_self ts, Bool.and_true]

end

mutual

theorem same_comm (a b : Ty) : same a b = same b a := by
  match a with
  | .paren a => rw [same, same_comm a b, ← same_strip_right b (.paren a), strip, same_strip_right]
  | .path rooted front last =>
    rw [same_eq, same_eq b]
    cases hb : b.strip with
    | path rooted' front' last' => exact endsAlike_comm _ _
    | _ => exact Bool.beq_comm
  | .tuple elems trailing =>
    rw [same_eq, same_eq b]
    cases hb : b.strip with
    | tuple elems' trailing' => exact sameAll_comm elems elems'
    | _ => exact Bool.beq_comm
  | .reference lifetime isMut target =>
    rw [same_eq, same_eq b]
    cases hb : b.strip with
    | reference lifetime' isMut' target' =>
      dsimp only [strip]
      rw [same_comm target target', Bool.beq_comm]
    | _ => exact Bool.beq_comm
  | .qualified .. | .array .. | .slice _ | .object .. | .other .. =>
    rw [same_eq, same_eq b]
    cases hb : b.strip <;> exact Bool.beq_comm

theorem sameAll_comm (as bs : List Ty) : sameAll as bs = sameAll bs as := by
  match as, bs with
  | [], [] => rfl
  | a :: as, b :: bs => rw [sameAll, sameAll, same_comm a b, sameAll_comm as bs]
  | [], _ :: _ | _ :: _, [] => rfl

end

/-! ## What matches -/

variable {a b : Ty}

theorem same_of_segments? {xs ys : List String} (ha : a.segments? = some xs)
    (hb : b.segments? = some ys) : same a b = endsAlike xs ys := by
  rw [segments?] at ha hb
  rw [same_eq]
  split at ha
  next hpath =>
    split at hb
    next hpath' =>
      rw [hpath, hpath']
      rw [← Option.some.inj ha, ← Option.some.inj hb]
    next => cases hb
  next => cases ha

theorem sameAll_iff {as bs : List Ty} :
    sameAll as bs = true ↔ List.Forall₂ (fun a b ↦ same a b = true) as bs := by
  induction as generalizing bs with
  | nil => cases bs <;> simp [sameAll]
  | cons a as ih => cases bs <;> simp [sameAll, ih]

theorem same_iff_of_reference {lifetime lifetime' : Option String} {isMut isMut' : Bool}
    {target target' : Ty} (ha : a.strip = .reference lifetime isMut target)
    (hb : b.strip = .reference lifetime' isMut' target') :
    same a b = true ↔ isMut = isMut' ∧ same target target' = true := by
  rw [same_eq, ha, hb, Bool.and_eq_true, beq_iff_eq]

theorem same_iff_of_tuple {elems elems' : List Ty} {trailing trailing' : Bool}
    (ha : a.strip = .tuple elems trailing) (hb : b.strip = .tuple elems' trailing') :
    same a b = true ↔ List.Forall₂ (fun a b ↦ same a b = true) elems elems' := by
  rw [same_eq, ha, hb, sameAll_iff]

/-- A path in a module. -/
def pathIn (module : String) : Ty := (Path.ofNames false [module] "Uuid").toTy

/-- A name matches paths that do not match each other. -/
theorem not_same_trans : ¬∀ a b c : Ty, same a b = true → same b c = true → same a c = true := by
  intro h
  have hsame := h (pathIn "a") (Path.ofNames false [] "Uuid").toTy (pathIn "b") rfl rfl
  have hother : same (pathIn "a") (pathIn "b") = false := rfl
  rw [hsame] at hother
  cases hother

/-- **Comparing types is a matching relation.**  Redundant parentheses do not count in types that are
read: the text of these tells which forms they have. -/
theorem same_matching :
    (∀ t : Ty, same t t = true) ∧ (∀ a b : Ty, same a b = same b a) ∧
    (∀ a a' b b' : Ty, (∀ t ∈ [a, a', b, b'], t.IsRead) →
      a.bare = a'.bare → b.bare = b'.bare → same a b = same a' b') ∧
    (∀ (a b : Ty) (xs ys : List String), a.segments? = some xs → b.segments? = some ys →
      (same a b = true ↔ xs <:+ ys ∨ ys <:+ xs)) ∧
    (∀ (a b : Ty) lifetime isMut target lifetime' isMut' target',
      a.strip = .reference lifetime isMut target → b.strip = .reference lifetime' isMut' target' →
      (same a b = true ↔ isMut = isMut' ∧ same target target' = true)) ∧
    (∀ (a b : Ty) elems trailing elems' trailing',
      a.strip = .tuple elems trailing → b.strip = .tuple elems' trailing' →
      (same a b = true ↔ List.Forall₂ (fun t u ↦ same t u = true) elems elems')) ∧
    (¬∀ a b c : Ty, same a b = true → same b c = true → same a c = true) ∧
    ∀ (a b c : Ty) (xs ys zs : List String),
      a.segments? = some xs → b.segments? = some ys → c.segments? = some zs →
      xs.length ≤ zs.length → ys.length ≤ zs.length →
      same a c = true → same b c = true → same a b = true := by
  refine ⟨same_self, same_comm, ?_, ?_, ?_, ?_, not_same_trans, ?_⟩
  · intro a a' b b' hread ha hb
    simp only [List.forall_mem_cons] at hread
    obtain ⟨hra, hra', hrb, hrb', -⟩ := hread
    exact same_congr (.of_telling hra.telling hrb.telling)
      (.of_telling hra'.telling hrb'.telling) ha hb
  · intro a b xs ys ha hb
    rw [same_of_segments? ha hb, endsAlike_iff]
  · exact fun a b _ _ _ _ _ _ ha hb ↦ same_iff_of_reference ha hb
  · exact fun a b _ _ _ _ ha hb ↦ same_iff_of_tuple ha hb
  · intro a b c xs ys zs ha hb hc hxlength hylength hac hbc
    rw [same_of_segments? ha hc] at hac
    rw [same_of_segments? hb hc] at hbc
    rw [same_of_segments? ha hb]
    exact endsAlike_of_endsAlike hac hbc hxlength hylength

/-- A byte in a tuple, in parentheses or not. -/
def byteTuple (inParens : Bool) : Ty :=
  let byte := (Path.ofNames false [] "u8").toTy
  .tuple [if inParens then .paren byte else byte] true

theorem isRead_byteTuple (inParens : Bool) : (byteTuple inParens).IsRead := by
  have hbyte : Tree.Lexed [.word "u8" .nowhere] := .word (by decide) (by decide) .nil
  have htuple {ts : List Tree} (hts : Tree.Lexed ts) :
      Tree.Lexed [.group .parens (ts ++ [.mark ',' false .nowhere]) .nowhere] :=
    .group (hts.append (.mark (by decide) .nil)) .nil
  cases inParens with
  | false => exact .of_eight (htuple hbyte) rfl
  | true => exact .of_eight (htuple (.group (s := .nowhere) (d := .parens) hbyte .nil)) rfl

/-- `((u8),)` and `(u8,)` match the same types. -/
theorem same_byteTuple : same (byteTuple true) (byteTuple true) =
    same (byteTuple false) (byteTuple false) := by
  refine same_matching.2.2.1 _ _ _ _ (fun t ht ↦ ?_) rfl rfl
  simp only [List.mem_cons, List.not_mem_nil, or_false] at ht
  rcases ht with rfl | rfl | rfl | rfl <;> exact isRead_byteTuple _

end TypedIds.Ty
