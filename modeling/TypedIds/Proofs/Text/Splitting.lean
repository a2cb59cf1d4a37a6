import TypedIds.Proofs.Text.Words

/-!
# Where words end

A name is cut into stretches at every character that is neither letter nor number
(`stretches_eq_splitOnP`), and a stretch into words at its boundaries.  Whether there is a boundary
between two characters of a stretch can be told from what stands before and after it
(`Boundary`), whatever words came before.  The reader of words goes through a stretch once, with the
case of the word so far and one character of look-ahead, and forgets the case at the end of a word.
That loses nothing: the word that begins has a case of its own at once.

What the reader knows of a word that is not ended yet is `Unfinished`, which every character of the
word keeps; so the words that it finds end at boundaries and nowhere else
(`endAtBoundaries_splitAtCase`).  **`splitsAtBoundaries_splitAtCase`** says the same without going
through the words: put together they are the stretch, and between two of its characters a word ends
if and only if there is a boundary.
-/

set_option autoImplicit false

namespace TypedIds.Text

/-! ## Stretches -/

/-- The stretches of a name are what separators leave of it. -/
theorem stretches_eq_splitOnP (name : List Char) :
    stretches name = name.splitOnP fun c ↦ !isAlphanumeric c := by
  induction name with
  | nil => simp [stretches]
  | cons c rest ih =>
    rw [stretches, List.splitOnP_cons_eq_if_modifyHead, ← ih]
    cases hrest : stretches rest with
    | nil => exact absurd hrest (stretches_ne_nil rest)
    | cons s ss => cases isAlphanumeric c <;> simp

/-! ## Boundaries -/

/-- The case of the last cased character of a text. -/
def lastCase (s : List Char) : WordCase := s.foldl WordCase.next .none

theorem lastCase_append_singleton (s : List Char) (c : Char) :
    lastCase (s ++ [c]) = (lastCase s).next c := by
  rw [lastCase, List.foldl_append, ← lastCase, List.foldl_cons, List.foldl_nil]

/-- A word ends between the two parts of a stretch: before a capital letter, if the last cased
character before it is small, or if that is a capital letter too and a small letter follows. -/
def Boundary (before after : List Char) : Prop :=
  ∃ c rest, after = c :: rest ∧ isUppercase c = true ∧
    (lastCase before = .lower ∨
      lastCase before = .upper ∧ rest.head?.any isLowercase = true)

/-- The words, after the part `past` of their stretch, end at its boundaries and nowhere else. -/
def EndAtBoundaries (past : List Char) : List (List Char) → Prop
  | [] => True
  | w :: ws =>
    w ≠ [] ∧
      (∀ a b, a ≠ [] → b ≠ [] → w = a ++ b → ¬Boundary (past ++ a) (b ++ ws.flatten)) ∧
      (ws ≠ [] → Boundary (past ++ w) ws.flatten) ∧ EndAtBoundaries (past ++ w) ws

/-! ## The word that is not ended yet -/

/-- What is known before the character `c`, the rest `cs` of the stretch coming after it, when the
characters `word` (last first) of a word of the case `k` come after `past`. -/
structure Unfinished (past : List Char) (k : WordCase) (word : List Char) (c : Char)
    (cs : List Char) : Prop where
  ne_nil : k = .upper → word ≠ []
  /-- The case of the word is that of all that was read, unless the word has just begun. -/
  case : k = lastCase (past ++ word.reverse) ∨
    k = .none ∧ (isUppercase c = true ∧ word = [] ∨ isLowercase c = true)
  inside : ∀ a b, a ≠ [] → b ≠ [] → word.reverse = a ++ b → ¬Boundary (past ++ a) (b ++ c :: cs)
  /-- A small letter before a capital one would have ended the word. -/
  lower : word ≠ [] → lastCase (past ++ word.reverse) = .lower → isUppercase c = false

namespace Unfinished

variable {past word cs : List Char} {k : WordCase} {c : Char}

theorem start (c : Char) (cs : List Char) : Unfinished [] .none [] c cs where
  ne_nil h := nomatch h
  case := .inl rfl
  inside _ _ ha _ h := absurd (List.append_eq_nil_iff.1 h.symm).1 ha
  lower h := absurd rfl h

variable (h : Unfinished past k word c cs)
include h

/-- After one more character the case is that of all that was read. -/
theorem next_eq : k.next c = lastCase (past ++ (c :: word).reverse) := by
  rw [List.reverse_cons, ← List.append_assoc, lastCase_append_singleton]
  obtain hk | ⟨hk, ⟨hc, -⟩ | hc⟩ := h.case
  · rw [hk]
  · simp [WordCase.next, hc]
  · simp [WordCase.next, hc]

/-- If the word does not end before the character, there is no boundary. -/
theorem not_boundary (hcase : isLowercase c = true → isUppercase c = false)
    (hend : ¬(k = .upper ∧ isUppercase c = true ∧ cs.head?.any isLowercase = true))
    (hword : word ≠ []) : ¬Boundary (past ++ word.reverse) (c :: cs) := by
  rintro ⟨d, rest, heq, hupper, hlast⟩
  obtain ⟨rfl, rfl⟩ := List.cons.inj heq
  obtain hlower | ⟨hlast, hnext⟩ := hlast
  · rw [h.lower hword hlower] at hupper
    exact nomatch hupper
  · obtain hk | ⟨-, ⟨-, hnil⟩ | hsmall⟩ := h.case
    · exact hend ⟨hk.trans hlast, hupper, hnext⟩
    · exact hword hnil
    · rw [hcase hsmall] at hupper
      exact nomatch hupper

/-- Nor is there one inside the word with the character. -/
theorem inside_cons (hcase : isLowercase c = true → isUppercase c = false)
    (hend : ¬(k = .upper ∧ isUppercase c = true ∧ cs.head?.any isLowercase = true))
    {a b : List Char} (ha : a ≠ []) (hb : b ≠ []) (hab : (c :: word).reverse = a ++ b) :
    ¬Boundary (past ++ a) (b ++ cs) := by
  have hlast : a = word.reverse → ¬Boundary (past ++ a) (c :: cs) := by
    rintro rfl
    exact h.not_boundary hcase hend fun hnil ↦ ha (by rw [hnil, List.reverse_nil])
  rw [List.reverse_cons] at hab
  obtain ⟨a', rfl, hc⟩ | ⟨b', hword, rfl⟩ := List.append_eq_append_iff.1 hab
  · obtain ⟨rfl, rfl⟩ : a' = [] ∧ b = [c] := by
      obtain hparts | ⟨-, rfl⟩ := List.append_eq_singleton_iff.1 hc.symm
      · exact hparts
      · exact absurd rfl hb
    exact hlast (List.append_nil _)
  · rw [List.append_assoc]
    cases b' with
    | nil => exact hlast (by rw [hword, List.append_nil])
    | cons d b' => exact h.inside a (d :: b') ha (List.cons_ne_nil d b') hword

end Unfinished

/-- The words that are found end at the boundaries and nowhere else. -/
theorem endAtBoundaries_splitAtCase {past word : List Char} {k : WordCase} {c : Char}
    {cs : List Char}
    (hcase : ∀ d ∈ c :: cs, isLowercase d = true → isUppercase d = false)
    (h : Unfinished past k word c cs) : EndAtBoundaries past (splitAtCase k word (c :: cs)) := by
  induction cs generalizing past k word c with
  | nil =>
    rw [splitAtCase]
    refine ⟨by simp, fun a b ha hb hab ↦ ?_, fun hnil ↦ absurd rfl hnil, trivial⟩
    exact h.inside_cons (hcase c List.mem_cons_self) (by simp) ha hb hab
  | cons d rest ih =>
    obtain ⟨hc, hrest⟩ := List.forall_mem_cons.1 hcase
    have hd := hrest d List.mem_cons_self
    rw [splitAtCase]
    split
    · -- The word ends after the small letter `c`.
      next hafter =>
      obtain ⟨hlower, hupper⟩ := hafter
      have hend : ¬(k = .upper ∧ isUppercase c = true ∧
          (d :: rest).head?.any isLowercase = true) := by
        rintro ⟨-, -, hsmall⟩
        rw [hd hsmall] at hupper
        cases hupper
      refine ⟨by simp, fun a b ha hb hab ↦ ?_, fun _ ↦ ?_, ih hrest ?_⟩
      · rw [flatten_splitAtCase]
        exact h.inside_cons hc hend ha hb hab
      · rw [flatten_splitAtCase]
        exact ⟨d, rest, rfl, hupper, .inl (h.next_eq.symm.trans hlower)⟩
      · exact {
          ne_nil := fun hnone ↦ absurd hnone (by decide)
          case := .inr ⟨rfl, .inl ⟨hupper, rfl⟩⟩
          inside := fun a b ha _ hab ↦ absurd (List.append_eq_nil_iff.1 hab.symm).1 ha
          lower := fun hnil ↦ absurd rfl hnil }
    · next hafter =>
      split
      · -- The word ends before the capital letter `c`.
        next hbefore =>
        obtain ⟨hk, hupper, hsmall⟩ := hbefore
        have hlast : k = lastCase (past ++ word.reverse) := by
          obtain hk' | ⟨hk', -⟩ := h.case
          · exact hk'
          · rw [hk'] at hk
            cases hk
        refine ⟨?_, fun a b ha hb hab ↦ ?_, fun _ ↦ ?_, ih hrest ?_⟩
        · simpa using h.ne_nil hk
        · rw [flatten_splitAtCase]
          exact h.inside a b ha hb hab
        · rw [flatten_splitAtCase]
          exact ⟨c, d :: rest, rfl, hupper, .inr ⟨hlast.symm.trans hk, hsmall⟩⟩
        · exact {
            ne_nil := fun hnone ↦ absurd hnone (by decide)
            case := .inr ⟨rfl, .inr hsmall⟩
            inside := fun a b ha hb hab ↦ by
              obtain ⟨hnil, -⟩ | ⟨-, hnil⟩ := List.append_eq_singleton_iff.1 hab.symm
              · exact absurd hnil ha
              · exact absurd hnil hb
            lower := fun _ _ ↦ hd hsmall }
      · -- The word goes on.
        next hbefore =>
        refine ih hrest {
          ne_nil := fun _ ↦ List.cons_ne_nil c word
          case := .inl h.next_eq
          inside := fun a b ha hb hab ↦ h.inside_cons hc hbefore ha hb hab
          lower := fun _ hlower ↦ ?_ }
        rw [← h.next_eq] at hlower
        rw [← Bool.not_eq_true]
        exact fun hupper ↦ hafter ⟨hlower, hupper⟩

/-! ## The words of a stretch -/

theorem EndAtBoundaries.ne_nil {past : List Char} {ws : List (List Char)}
    (h : EndAtBoundaries past ws) : ∀ w ∈ ws, w ≠ [] := by
  induction ws generalizing past with
  | nil => exact fun w hw ↦ absurd hw List.not_mem_nil
  | cons w ws ih => exact List.forall_mem_cons.2 ⟨h.1, ih h.2.2.2⟩

/-- Between two characters there is a boundary if and only if a word ends there. -/
theorem EndAtBoundaries.boundary_iff {past before after : List Char} {ws : List (List Char)}
    (h : EndAtBoundaries past ws) (hbefore : before ≠ []) (hafter : after ≠ [])
    (hws : ws.flatten = before ++ after) :
    Boundary (past ++ before) after ↔
      ∃ us vs, ws = us ++ vs ∧ us.flatten = before ∧ vs.flatten = after := by
  induction ws generalizing past before with
  | nil => exact absurd (List.append_eq_nil_iff.1 hws.symm).1 hbefore
  | cons w ws ih =>
    obtain ⟨-, hinside, hend, hrest⟩ := h
    rw [List.flatten_cons] at hws
    -- The words before the place are `w` and some more, since there is a character before it.
    have hfirst : (∃ us vs, w :: ws = us ++ vs ∧ us.flatten = before ∧ vs.flatten = after) ↔
        ∃ us vs, ws = us ++ vs ∧ w ++ us.flatten = before ∧ vs.flatten = after := by
      constructor
      · rintro ⟨us, vs, hsplit, rfl, rfl⟩
        cases us with
        | nil => exact absurd rfl hbefore
        | cons u us =>
          obtain ⟨rfl, rfl⟩ := List.cons.inj hsplit
          exact ⟨us, vs, rfl, rfl, rfl⟩
      · rintro ⟨us, vs, rfl, rfl, rfl⟩
        exact ⟨w :: us, vs, rfl, rfl, rfl⟩
    rw [hfirst]
    have hhere (hw : before = w) (hflat : ws.flatten = after) : Boundary (past ++ before) after ↔
        ∃ us vs, ws = us ++ vs ∧ w ++ us.flatten = before ∧ vs.flatten = after := by
      subst hw hflat
      refine iff_of_true (hend ?_) ⟨[], ws, rfl, List.append_nil _, rfl⟩
      rintro rfl
      exact hafter rfl
    obtain ⟨more, hw, hmore⟩ | ⟨more, hw, hmore⟩ := List.append_eq_append_iff.1 hws
    · by_cases hnil : more = []
      · exact hhere (by rw [hw, hnil, List.append_nil]) (by rw [hmore, hnil, List.nil_append])
      · rw [hw, ← List.append_assoc, ih hrest hnil hmore]
        simp only [List.append_cancel_left_eq]
    · by_cases hnil : more = []
      · exact hhere (by rw [hw, hnil, List.append_nil]) (by rw [hmore, hnil, List.nil_append])
      · refine iff_of_false ?_ ?_
        · rw [hmore]
          exact hinside before more hbefore hnil hw
        · rintro ⟨us, vs, -, hbefore', -⟩
          have hlength := congrArg List.length hbefore'
          have hpos := List.length_pos_iff.2 hnil
          simp only [hw, List.length_append] at hlength
          omega

/-- The words of a stretch are the pieces that its boundaries cut it into. -/
structure SplitsAtBoundaries (s : List Char) (ws : List (List Char)) : Prop where
  flatten_eq : ws.flatten = s
  ne_nil : ∀ w ∈ ws, w ≠ []
  boundary_iff : ∀ before after, before ≠ [] → after ≠ [] → before ++ after = s →
    (Boundary before after ↔
      ∃ us vs, ws = us ++ vs ∧ us.flatten = before ∧ vs.flatten = after)

/-- **The words of a stretch are what its boundaries make of it**, if no small letter is a capital
one. -/
theorem splitsAtBoundaries_splitAtCase {s : List Char}
    (hcase : ∀ d ∈ s, isLowercase d = true → isUppercase d = false) :
    SplitsAtBoundaries s (splitAtCase .none [] s) := by
  cases s with
  | nil =>
    exact ⟨rfl, fun w hw ↦ absurd hw List.not_mem_nil,
      fun before after hbefore _ hs ↦ absurd (List.append_eq_nil_iff.1 hs).1 hbefore⟩
  | cons c cs =>
    have hends := endAtBoundaries_splitAtCase hcase (Unfinished.start c cs)
    have hflat : (splitAtCase .none [] (c :: cs)).flatten = c :: cs := flatten_splitAtCase _ _ _ _
    exact ⟨hflat, hends.ne_nil, fun before after hbefore hafter hs ↦
      hends.boundary_iff hbefore hafter (hflat.trans hs.symm)⟩

end TypedIds.Text
