import Mathlib.Data.List.Basic
import TypedIds.Proofs.Text.Splitting

/-!
# Snake case names

What the snake case of an ASCII name looks like: runs of small letters and digits, none of them
empty, with single underscores between them (`IsRun`).  The runs are the words of the name in lower
case (`snakeCase_of_ascii`, `isRun_of_mem_words`).

Snake case leaves such a text as it is (`snakeCase_intercalate`): its stretches are its runs, since
only the underscores separate, and no run holds a capital letter at which it could be split.
-/

set_option autoImplicit false

namespace TypedIds.Text

/-- A run of small letters and digits that is not empty. -/
def IsRun (w : List Char) : Prop := w ≠ [] ∧ ∀ c ∈ w, (c.isLower || c.isDigit) = true

/-! ## Characters -/

theorem ascii_of_run {c : Char} (hc : (c.isLower || c.isDigit) = true) : c.toNat < 128 := by
  rw [Bool.or_eq_true] at hc
  obtain hlower | hdigit := hc
  · have hrange : (decide (c.val ≥ 'a'.val) && decide (c.val ≤ 'z'.val)) = true := hlower
    rw [Bool.and_eq_true, decide_eq_true_eq, decide_eq_true_eq] at hrange
    exact ascii_of_le (d := 'z') hrange.2 (by decide)
  · exact Nat.lt_of_le_of_lt (Char.isDigit_iff_toNat.1 hdigit).2 (by decide)

/-- Neither a separator nor a change of case is found inside a run, and it is in lower case. -/
theorem run_spec {c : Char} (hc : (c.isLower || c.isDigit) = true) :
    isAlphanumeric c = true ∧ isUppercase c = false ∧ c.toLower = c :=
  forall_ascii
    (P := fun c ↦ (c.isLower || c.isDigit) = true →
      isAlphanumeric c = true ∧ isUppercase c = false ∧ c.toLower = c)
    (ascii_of_run hc) (by decide +kernel) hc

/-- The lower case of a letter or number of ASCII may stand in a run. -/
theorem run_toLower {c : Char} (hsmall : c.toNat < 128) (hc : isAlphanumeric c = true) :
    (c.toLower.isLower || c.toLower.isDigit) = true := by
  revert hc
  exact forall_ascii hsmall (by decide +kernel)

theorem lowerWord_of_ascii {w : List Char} (hw : ∀ c ∈ w, c.toNat < 128) :
    lowerWord w = w.map Char.toLower := by
  have hlower {c : Char} (hc : c.toNat < 128) : lower c = [c.toLower] := by rw [lower, if_pos hc]
  induction w with
  | nil => rfl
  | cons c rest ih =>
    obtain ⟨hc, hrest⟩ := List.forall_mem_cons.1 hw
    cases rest with
    | nil =>
      have hsigma : c ≠ 'Σ' := by
        rintro rfl
        exact absurd hc (by decide)
      simp [lowerWord, hsigma, hlower hc]
    | cons d ds =>
      rw [lowerWord, hlower hc, ih hrest]
      · rfl
      · simp

/-! ## Words -/

/-- No small letter of ASCII is a capital one. -/
theorem not_isUppercase_of_ascii {c : Char} (hsmall : c.toNat < 128) (hc : isLowercase c = true) :
    isUppercase c = false := by
  revert hc
  exact forall_ascii hsmall (by decide +kernel)

theorem splitsAtBoundaries_of_ascii {name s : List Char} (hname : ∀ c ∈ name, c.toNat < 128)
    (hs : s ∈ stretches name) : SplitsAtBoundaries s (splitAtCase .none [] s) :=
  splitsAtBoundaries_splitAtCase fun c hc ↦
    not_isUppercase_of_ascii (hname c (of_mem_stretches hs hc).1)

/-- The words of an ASCII name are runs when they are in lower case. -/
theorem isRun_of_mem_words {name w : List Char} (hname : ∀ c ∈ name, c.toNat < 128)
    (hw : w ∈ words name) : IsRun (w.map Char.toLower) := by
  constructor
  · obtain ⟨s, hs, hws⟩ := List.mem_flatMap.1 hw
    exact fun hnil ↦
      (splitsAtBoundaries_of_ascii hname hs).ne_nil w hws (List.map_eq_nil_iff.1 hnil)
  · intro d hd
    obtain ⟨c, hc, rfl⟩ := List.mem_map.1 hd
    obtain ⟨hmem, halphanumeric⟩ := of_mem_words hw hc
    exact run_toLower (hname c hmem) halphanumeric

theorem snakeCase_of_ascii {name : List Char} (hname : ∀ c ∈ name, c.toNat < 128) :
    snakeCase name = ['_'].intercalate ((words name).map (List.map Char.toLower)) := by
  have hlower : (words name).map lowerWord = (words name).map (List.map Char.toLower) :=
    List.map_congr_left fun w hw ↦
      lowerWord_of_ascii fun c hc ↦ hname c (of_mem_words hw hc).1
  rw [snakeCase, hlower]

/-! ## Runs -/

/-- A stretch without capital letters is one word. -/
theorem splitAtCase_of_not_upper {k : WordCase} {word : List Char} {c : Char} {cs : List Char}
    (h : ∀ d ∈ c :: cs, isUppercase d = false) :
    splitAtCase k word (c :: cs) = [word.reverse ++ c :: cs] := by
  induction cs generalizing k word c with
  | nil => simp [splitAtCase]
  | cons d rest ih =>
    obtain ⟨hc, hrest⟩ := List.forall_mem_cons.1 h
    have hd := hrest d List.mem_cons_self
    rw [splitAtCase, if_neg (by simp [hd]), if_neg (by simp [hc]), ih hrest]
    simp

/-- Any separator cuts joined pieces of letters and numbers where they were joined. -/
theorem stretches_intercalate {separator : Char} (hseparator : isAlphanumeric separator = false)
    {pieces : List (List Char)} (hne : pieces ≠ [])
    (h : ∀ p ∈ pieces, ∀ c ∈ p, isAlphanumeric c = true) :
    stretches ([separator].intercalate pieces) = pieces := by
  have hcut : (!isAlphanumeric separator) = true := by rw [hseparator]; rfl
  rw [stretches_eq_splitOnP]
  induction pieces with
  | nil => exact absurd rfl hne
  | cons p rest ih =>
    obtain ⟨hp, hrest⟩ := List.forall_mem_cons.1 h
    have hnone : ∀ c ∈ p, (!isAlphanumeric c) = false := fun c hc ↦ by rw [hp c hc]; rfl
    cases rest with
    | nil => simpa using List.splitOnP_eq_singleton hnone
    | cons p' rest =>
      rw [List.intercalate_cons_cons, List.append_assoc, List.singleton_append,
        List.splitOnP_append_cons_of_forall_mem hnone _ hcut, ih (by simp) hrest]

/-- The words of joined runs are the runs. -/
theorem words_intercalate {runs : List (List Char)} (h : ∀ r ∈ runs, IsRun r) :
    words (['_'].intercalate runs) = runs := by
  have hword : ∀ r ∈ runs, splitAtCase .none [] r = [r] := by
    intro r hr
    obtain ⟨hne, hchars⟩ := h r hr
    obtain ⟨c, cs, rfl⟩ := List.exists_cons_of_ne_nil hne
    exact splitAtCase_of_not_upper fun d hd ↦ (run_spec (hchars d hd)).2.1
  by_cases hne : runs = []
  · rw [hne]
    rfl
  · have hunderscore : isAlphanumeric '_' = false := rfl
    rw [words, stretches_intercalate hunderscore hne fun r hr c hc ↦ (run_spec ((h r hr).2 c hc)).1,
      List.flatMap_congr hword, List.flatMap_singleton']

/-- **Joined runs are in snake case.** -/
theorem snakeCase_intercalate {runs : List (List Char)} (h : ∀ r ∈ runs, IsRun r) :
    snakeCase (['_'].intercalate runs) = ['_'].intercalate runs := by
  have hlower : ∀ r ∈ runs, lowerWord r = r := by
    intro r hr
    rw [lowerWord_of_ascii fun c hc ↦ ascii_of_run ((h r hr).2 c hc)]
    exact (List.map_congr_left fun c hc ↦ (run_spec ((h r hr).2 c hc)).2.2).trans (List.map_id' r)
  rw [snakeCase, words_intercalate h, List.map_congr_left hlower, List.map_id']

end TypedIds.Text
