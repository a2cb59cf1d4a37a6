import TypedIds.Proofs.Text.SnakeCase

/-!
# Spelling conventions

A list of words can be spelled as one name in several conventions: with capital letters where the
words begin, with a separator between them, or in capital letters with a separator.  Each relies on
another way in which a word ends: a change of case, a separator, or a run of capitals that is not
followed by a small letter.

Words of two or more small letters can be told apart in all of them, and **the snake case of every
spelling is the same** (`snakeCase_spell`).  A word of one letter could not: two of them in a row
would be a run of capitals in `PascalCase`, and so one word.
-/

set_option autoImplicit false

namespace TypedIds.Text

/-- A word in capital letters where it begins. -/
def capitalize : List Char → List Char
  | [] => []
  | c :: cs => c.toUpper :: cs

/-- A way to spell a list of words as one name. -/
inductive Convention where
  /-- `TenantId` -/
  | pascal
  /-- `tenantId` -/
  | camel
  /-- `tenant-id` -/
  | kebab
  /-- `TENANT_ID` -/
  | screamingSnake
  /-- `tenant_id` -/
  | snake
  deriving Repr, DecidableEq

/-- The name that a convention makes of words in small letters. -/
def Convention.spell : Convention → List (List Char) → List Char
  | .pascal, ws => ws.flatMap capitalize
  | .camel, [] => []
  | .camel, w :: ws => w ++ ws.flatMap capitalize
  | .kebab, ws => ['-'].intercalate ws
  | .screamingSnake, ws => ['_'].intercalate (ws.map (List.map Char.toUpper))
  | .snake, ws => ['_'].intercalate ws

/-- A word of two or more small letters of ASCII. -/
structure IsLongWord (w : List Char) : Prop where
  two_le_length : 2 ≤ w.length
  isLower : ∀ c ∈ w, c.isLower = true

/-! ## Letters -/

/-- What the splitter of words sees of a small letter. -/
structure IsSmall (c : Char) : Prop where
  ascii : c.toNat < 128
  isAlphanumeric : isAlphanumeric c = true
  isUppercase : isUppercase c = false
  isLowercase : isLowercase c = true
  toLower : c.toLower = c
  isDigit : c.isDigit = false

/-- What the splitter of words sees of the capital letter `c` of the small letter `d`. -/
structure IsCapital (c d : Char) : Prop where
  ascii : c.toNat < 128
  isAlphanumeric : isAlphanumeric c = true
  isUppercase : isUppercase c = true
  isLowercase : isLowercase c = false
  toLower : c.toLower = d

theorem isSmall_of_isLower {c : Char} (hc : c.isLower = true) : IsSmall c := by
  have hascii : c.toNat < 128 := ascii_of_run (by rw [hc, Bool.true_or])
  obtain ⟨halphanumeric, hupper, hlower, hself, hdigit⟩ := forall_ascii
    (P := fun c ↦ c.isLower = true → isAlphanumeric c = true ∧ isUppercase c = false ∧
      isLowercase c = true ∧ c.toLower = c ∧ c.isDigit = false)
    hascii (by decide +kernel) hc
  exact ⟨hascii, halphanumeric, hupper, hlower, hself, hdigit⟩

theorem isCapital_toUpper {c : Char} (hc : c.isLower = true) : IsCapital c.toUpper c := by
  obtain ⟨hascii, halphanumeric, hupper, hlower, hsmall⟩ := forall_ascii
    (P := fun c ↦ c.isLower = true → c.toUpper.toNat < 128 ∧ isAlphanumeric c.toUpper = true ∧
      isUppercase c.toUpper = true ∧ isLowercase c.toUpper = false ∧ c.toUpper.toLower = c)
    (isSmall_of_isLower hc).ascii (by decide +kernel) hc
  exact ⟨hascii, halphanumeric, hupper, hlower, hsmall⟩

namespace IsLongWord

variable {w : List Char} (h : IsLongWord w)
include h

theorem isSmall {c : Char} (hc : c ∈ w) : IsSmall c := isSmall_of_isLower (h.isLower c hc)

theorem isCapital {c : Char} (hc : c ∈ w) : IsCapital c.toUpper c :=
  isCapital_toUpper (h.isLower c hc)

/-- A long word has a first and a second letter. -/
theorem exists_cons_cons : ∃ c d cs, w = c :: d :: cs := by
  obtain ⟨hlength, -⟩ := h
  match w, hlength with
  | c :: d :: cs, _ => exact ⟨c, d, cs, rfl⟩

theorem ne_nil : w ≠ [] := by
  obtain ⟨c, d, cs, rfl⟩ := h.exists_cons_cons
  exact List.cons_ne_nil c _

/-- What stands in a capitalized word is a small letter, or the capital one of a small letter. -/
theorem of_mem_capitalize {c : Char} (hc : c ∈ capitalize w) :
    c.toNat < 128 ∧ isAlphanumeric c = true := by
  obtain ⟨a, d, cs, rfl⟩ := h.exists_cons_cons
  obtain rfl | hc := List.mem_cons.1 hc
  · have ha := h.isCapital (c := a) List.mem_cons_self
    exact ⟨ha.ascii, ha.isAlphanumeric⟩
  · have hc := h.isSmall (List.mem_cons_of_mem a hc)
    exact ⟨hc.ascii, hc.isAlphanumeric⟩

theorem map_toLower : w.map Char.toLower = w :=
  (List.map_congr_left fun _ hc ↦ (h.isSmall hc).toLower).trans (List.map_id' w)

theorem map_toLower_capitalize : (capitalize w).map Char.toLower = w := by
  obtain ⟨c, d, cs, rfl⟩ := h.exists_cons_cons
  have hw := h.map_toLower
  rw [List.map_cons, List.cons.injEq] at hw
  rw [capitalize, List.map_cons, hw.2, (h.isCapital List.mem_cons_self).toLower]

theorem map_toLower_map_toUpper : (w.map Char.toUpper).map Char.toLower = w := by
  rw [List.map_map]
  exact (List.map_congr_left fun c hc ↦ (h.isCapital hc).toLower).trans
    (List.map_id' w)

/-- A long word is a run. -/
theorem isRun : IsRun w := ⟨h.ne_nil, fun c hc ↦ by rw [h.isLower c hc, Bool.true_or]⟩

end IsLongWord

/-! ## Capital letters -/

/-- A stretch without small letters is one word, unless the word before it ends in one. -/
theorem splitAtCase_of_not_lower {k : WordCase} {word : List Char} {c : Char} {cs : List Char}
    (hk : k ≠ .lower) (h : ∀ d ∈ c :: cs, isLowercase d = false) :
    splitAtCase k word (c :: cs) = [word.reverse ++ c :: cs] := by
  induction cs generalizing k word c with
  | nil => simp [splitAtCase]
  | cons d rest ih =>
    obtain ⟨hc, hrest⟩ := List.forall_mem_cons.1 h
    have hd := hrest d List.mem_cons_self
    have hnext : k.next c ≠ .lower := by
      rw [WordCase.next, hc]
      cases isUppercase c <;> simp [hk]
    rw [splitAtCase, if_neg (by simp [hnext]), if_neg (by simp [hd]), ih hnext hrest]
    simp

/-- A run of small letters ends before a capital one. -/
theorem splitAtCase_lower_upper {k : WordCase} {word : List Char} {c d : Char}
    {cs rest : List Char} (h : ∀ e ∈ c :: cs, e.isLower = true) (hd : isUppercase d = true) :
    splitAtCase k word (c :: cs ++ d :: rest) =
      (word.reverse ++ c :: cs) :: splitAtCase .none [] (d :: rest) := by
  induction cs generalizing k word c with
  | nil =>
    have hnext : k.next c = .lower := by
      rw [WordCase.next, (isSmall_of_isLower (h c List.mem_cons_self)).isLowercase, if_pos rfl]
    rw [List.cons_append, List.nil_append, splitAtCase, if_pos ⟨hnext, hd⟩, List.reverse_cons]
  | cons e es ih =>
    obtain ⟨hc, hrest⟩ := List.forall_mem_cons.1 h
    have hupper {a : Char} (ha : a.isLower = true) : isUppercase a ≠ true := by
      rw [(isSmall_of_isLower ha).isUppercase]
      exact Bool.false_ne_true
    rw [List.cons_append, List.cons_append, splitAtCase,
      if_neg fun hafter ↦ hupper (hrest e List.mem_cons_self) hafter.2,
      if_neg fun hbefore ↦ hupper hc hbefore.2.1, ← List.cons_append, ih hrest]
    simp

/-- A capital letter with a small one after it begins a word, and does not end it. -/
theorem splitAtCase_upper_lower {c d : Char} {cs : List Char} (hc : c.isLower = true) :
    splitAtCase .none [] (c.toUpper :: d :: cs) = splitAtCase .upper [c.toUpper] (d :: cs) := by
  obtain ⟨-, -, hupper, hlower, -⟩ := isCapital_toUpper hc
  have hnext : WordCase.none.next c.toUpper = .upper := by
    rw [WordCase.next, hlower, hupper]
    rfl
  rw [splitAtCase, hnext, if_neg (by simp), if_neg (by simp)]

/-- **Capitalized words are told apart**, after the end of a word in small letters. -/
theorem splitAtCase_capitalize {k : WordCase} {word : List Char} {c : Char} {cs : List Char}
    {ws : List (List Char)} (hc : ∀ e ∈ c :: cs, e.isLower = true)
    (hws : ∀ w ∈ ws, IsLongWord w) :
    splitAtCase k word (c :: cs ++ ws.flatMap capitalize) =
      (word.reverse ++ c :: cs) :: ws.map capitalize := by
  induction ws generalizing k word c cs with
  | nil =>
    rw [List.flatMap_nil, List.append_nil,
      splitAtCase_of_not_upper fun d hd ↦ (isSmall_of_isLower (hc d hd)).isUppercase]
    rfl
  | cons w ws ih =>
    obtain ⟨hw, hrest⟩ := List.forall_mem_cons.1 hws
    obtain ⟨a, d, ds, rfl⟩ := hw.exists_cons_cons
    obtain ⟨ha, hds⟩ := List.forall_mem_cons.1 hw.isLower
    have hfirst : splitAtCase .none [] (capitalize (a :: d :: ds) ++ ws.flatMap capitalize) =
        capitalize (a :: d :: ds) :: ws.map capitalize :=
      (splitAtCase_upper_lower ha).trans (ih hds hrest)
    rw [List.flatMap_cons, List.map_cons, ← hfirst]
    exact splitAtCase_lower_upper hc (isCapital_toUpper ha).isUppercase

/-! ## Words of a spelling -/

/-- A name of letters only is one stretch. -/
theorem words_of_letters {name : List Char} (h : ∀ c ∈ name, isAlphanumeric c = true) :
    words name = splitAtCase .none [] name := by
  have hnone : ∀ c ∈ name, (!isAlphanumeric c) = false := fun c hc ↦ by rw [h c hc]; rfl
  rw [words, stretches_eq_splitOnP, List.splitOnP_eq_singleton hnone, List.flatMap_singleton]

/-- Words that are not split any further are what a separator tells apart. -/
theorem words_separated {separator : Char} (hseparator : isAlphanumeric separator = false)
    {ws : List (List Char)} (hne : ws ≠ []) (h : ∀ w ∈ ws, ∀ c ∈ w, isAlphanumeric c = true)
    (hword : ∀ w ∈ ws, splitAtCase .none [] w = [w]) :
    words ([separator].intercalate ws) = ws := by
  rw [words, stretches_intercalate hseparator hne h, List.flatMap_congr hword,
    List.flatMap_singleton']

namespace IsLongWord

variable {w : List Char} (h : IsLongWord w)
include h

theorem splitAtCase_eq : splitAtCase .none [] w = [w] := by
  obtain ⟨c, d, cs, rfl⟩ := h.exists_cons_cons
  exact splitAtCase_of_not_upper fun e he ↦ (h.isSmall he).isUppercase

theorem splitAtCase_map_toUpper :
    splitAtCase .none [] (w.map Char.toUpper) = [w.map Char.toUpper] := by
  obtain ⟨c, d, cs, rfl⟩ := h.exists_cons_cons
  exact splitAtCase_of_not_lower (by decide)
    (List.forall_mem_map.2 fun e he ↦ (h.isCapital he).isLowercase)

end IsLongWord

section

variable {w : List Char} {ws : List (List Char)} (hws : ∀ w ∈ ws, IsLongWord w)
include hws

theorem ascii_flatMap_capitalize {c : Char} (hc : c ∈ ws.flatMap capitalize) :
    c.toNat < 128 ∧ isAlphanumeric c = true := by
  obtain ⟨w, hw, hc⟩ := List.mem_flatMap.1 hc
  exact (hws w hw).of_mem_capitalize hc

theorem words_camel (hw : IsLongWord w) :
    words (w ++ ws.flatMap capitalize) = w :: ws.map capitalize := by
  have hletters : ∀ c ∈ w ++ ws.flatMap capitalize, isAlphanumeric c = true := by
    intro c hc
    obtain hc | hc := List.mem_append.1 hc
    · exact (hw.isSmall hc).isAlphanumeric
    · exact (ascii_flatMap_capitalize hws hc).2
  rw [words_of_letters hletters]
  obtain ⟨c, d, cs, rfl⟩ := hw.exists_cons_cons
  exact splitAtCase_capitalize hw.isLower hws

theorem words_pascal : words (ws.flatMap capitalize) = ws.map capitalize := by
  rw [words_of_letters fun c hc ↦ (ascii_flatMap_capitalize hws hc).2]
  cases ws with
  | nil => rfl
  | cons w ws =>
    -- The first word is like the others, but there is no small letter before it.
    obtain ⟨hw, hrest⟩ := List.forall_mem_cons.1 hws
    obtain ⟨c, d, cs, rfl⟩ := hw.exists_cons_cons
    obtain ⟨hc, hcs⟩ := List.forall_mem_cons.1 hw.isLower
    exact (splitAtCase_upper_lower hc).trans (splitAtCase_capitalize hcs hrest)

theorem map_toLower_map_capitalize : (ws.map capitalize).map (List.map Char.toLower) = ws := by
  rw [List.map_map]
  exact (List.map_congr_left fun w hw ↦ (hws w hw).map_toLower_capitalize).trans (List.map_id' ws)

end

namespace Convention

variable {ws : List (List Char)} (hws : ∀ w ∈ ws, IsLongWord w)
include hws

/-- A spelling is in ASCII. -/
theorem ascii_spell (conv : Convention) : ∀ c ∈ conv.spell ws, c.toNat < 128 := by
  have hjoined {separator c : Char} {vs : List (List Char)} (hseparator : separator.toNat < 128)
      (hvs : ∀ w ∈ vs, ∀ d ∈ w, d.toNat < 128) (hc : c ∈ [separator].intercalate vs) :
      c.toNat < 128 := by
    by_contra hlarge
    refine not_mem_intercalate ?_ vs (fun w hw hmem ↦ hlarge (hvs w hw c hmem)) hc
    rw [List.mem_singleton]
    rintro rfl
    exact hlarge hseparator
  have hsmall : ∀ w ∈ ws, ∀ d ∈ w, d.toNat < 128 := fun w hw d hd ↦
    ((hws w hw).isSmall hd).ascii
  cases conv with
  | pascal => exact fun c hc ↦ (ascii_flatMap_capitalize hws hc).1
  | camel =>
    cases ws with
    | nil => exact fun c hc ↦ absurd hc List.not_mem_nil
    | cons w ws =>
      intro c hc
      obtain hc | hc := List.mem_append.1 hc
      · exact hsmall w List.mem_cons_self c hc
      · exact (ascii_flatMap_capitalize (List.forall_mem_cons.1 hws).2 hc).1
  | kebab => exact fun c hc ↦ hjoined (by decide) hsmall hc
  | screamingSnake =>
    refine fun c hc ↦ hjoined (by decide) (List.forall_mem_map.2 fun w hw ↦ ?_) hc
    exact List.forall_mem_map.2 fun d hd ↦ ((hws w hw).isCapital hd).ascii
  | snake => exact fun c hc ↦ hjoined (by decide) hsmall hc

/-- The words of a spelling, in lower case, are the words that were spelled. -/
theorem words_spell (hne : ws ≠ []) (conv : Convention) :
    (words (conv.spell ws)).map (List.map Char.toLower) = ws := by
  have hdash : isAlphanumeric '-' = false := rfl
  have hunderscore : isAlphanumeric '_' = false := rfl
  have hletters : ∀ w ∈ ws, ∀ c ∈ w, isAlphanumeric c = true := fun w hw c hc ↦
    ((hws w hw).isSmall hc).isAlphanumeric
  have hlower : ws.map (List.map Char.toLower) = ws :=
    (List.map_congr_left fun w hw ↦ (hws w hw).map_toLower).trans (List.map_id' ws)
  cases conv with
  | pascal => rw [spell, words_pascal hws, map_toLower_map_capitalize hws]
  | camel =>
    obtain ⟨w, vs, rfl⟩ := List.exists_cons_of_ne_nil hne
    obtain ⟨hw, hvs⟩ := List.forall_mem_cons.1 hws
    rw [spell, words_camel hvs hw, List.map_cons, hw.map_toLower, map_toLower_map_capitalize hvs]
  | kebab => rw [spell, words_separated hdash hne hletters fun w hw ↦ (hws w hw).splitAtCase_eq,
      hlower]
  | screamingSnake =>
    have hcapitals : ∀ w ∈ ws.map (List.map Char.toUpper), ∀ c ∈ w, isAlphanumeric c = true :=
      List.forall_mem_map.2 fun w hw ↦ List.forall_mem_map.2 fun c hc ↦
        ((hws w hw).isCapital hc).isAlphanumeric
    rw [spell, words_separated hunderscore (by simpa using hne) hcapitals
      (List.forall_mem_map.2 fun w hw ↦ (hws w hw).splitAtCase_map_toUpper), List.map_map]
    exact (List.map_congr_left fun w hw ↦ (hws w hw).map_toLower_map_toUpper).trans
      (List.map_id' ws)
  | snake => rw [spell, words_separated hunderscore hne hletters
      fun w hw ↦ (hws w hw).splitAtCase_eq, hlower]

/-- **The snake case of a spelling is the words that were spelled**, joined with `_`. -/
theorem snakeCase_spell (hne : ws ≠ []) (conv : Convention) :
    snakeCase (conv.spell ws) = ['_'].intercalate ws := by
  rw [snakeCase_of_ascii (ascii_spell hws conv), words_spell hws hne]

end Convention

/-- Words of one letter are not told apart by their capital letters. -/
example : Convention.spell .pascal [['a'], ['b']] = ['A', 'B'] ∧
    snakeCase ['A', 'B'] = ['a', 'b'] := by
  constructor <;> cbv

end TypedIds.Text
