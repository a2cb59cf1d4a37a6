import Mathlib.Data.List.Flatten
import TypedIds.Proofs.Text.Casing
import TypedIds.Text.Words

/-!
# The characters of a snake case name

Splitting a name into words drops the separators and nothing else: the stretches hold letters and
numbers only, and the words of a stretch, put together again, are the stretch.  So every character
of a snake case name is an underscore or the lower case of a letter or number.

What this is for are the characters that must *not* appear: the mark of a raw name, and everything
at which the reader of tokens does something else than read a word.  A snake case name has none of
them, whatever text it was made from.
-/

set_option autoImplicit false

namespace TypedIds.Text

/-! ## Words -/

theorem stretches_ne_nil (name : List Char) : stretches name ≠ [] := by
  cases name with
  | nil => simp [stretches]
  | cons c cs =>
    rw [stretches]
    split
    · simp
    · split <;> simp

/-- A stretch holds letters and numbers of the name only. -/
theorem of_mem_stretches {name s : List Char} (hs : s ∈ stretches name) {c : Char} (hc : c ∈ s) :
    c ∈ name ∧ isAlphanumeric c = true := by
  induction name generalizing s c with
  | nil =>
    rw [stretches, List.mem_singleton] at hs
    exact absurd hc (by simp [hs])
  | cons d rest ih =>
    have hmore {t : List Char} {c : Char} (ht : t ∈ stretches rest) (hc : c ∈ t) :
        c ∈ d :: rest ∧ isAlphanumeric c = true :=
      ⟨List.mem_cons_of_mem d (ih ht hc).1, (ih ht hc).2⟩
    rw [stretches] at hs
    cases hrest : stretches rest with
    | nil => exact absurd hrest (stretches_ne_nil rest)
    | cons t ts =>
      rw [hrest] at hs hmore
      dsimp only at hs
      split at hs
      next hd =>
        obtain rfl | hs := List.mem_cons.1 hs
        · obtain rfl | hc := List.mem_cons.1 hc
          · exact ⟨List.mem_cons_self, hd⟩
          · exact hmore List.mem_cons_self hc
        · exact hmore (List.mem_cons_of_mem t hs) hc
      next =>
        obtain rfl | hs := List.mem_cons.1 hs
        · exact absurd hc List.not_mem_nil
        · exact hmore hs hc

/-- Splitting a stretch at changes of case loses no character and adds none. -/
theorem flatten_splitAtCase (k : WordCase) (word : List Char) (c : Char) (cs : List Char) :
    (splitAtCase k word (c :: cs)).flatten = word.reverse ++ c :: cs := by
  induction cs generalizing k word c with
  | nil => simp [splitAtCase]
  | cons d rest ih =>
    rw [splitAtCase]
    split
    · simp [ih]
    · split
      · simp [ih]
      · simp [ih]

/-- A word holds letters and numbers of the name only. -/
theorem of_mem_words {name w : List Char} (hw : w ∈ words name) {c : Char} (hc : c ∈ w) :
    c ∈ name ∧ isAlphanumeric c = true := by
  obtain ⟨s, hs, hws⟩ := List.mem_flatMap.1 hw
  refine of_mem_stretches hs ?_
  cases s with
  | nil => simp [splitAtCase] at hws
  | cons d ds =>
    have hflat : (splitAtCase .none [] (d :: ds)).flatten = d :: ds :=
      flatten_splitAtCase .none [] d ds
    rw [← hflat]
    exact List.mem_flatten.2 ⟨w, hws, hc⟩

/-! ## Lower case -/

/-- The code points of white space, the marks of direction and of the byte order, and those that
begin a comment, mark a raw name, or open or close a group. -/
def Table.separating : Ranges :=
  Table.blank ++ [(0x23, 0x23), (0x28, 0x29), (0x2f, 0x2f), (0x5b, 0x5b), (0x5d, 0x5d),
    (0x7b, 0x7b), (0x7d, 0x7d), (0x200e, 0x200f), (0xfeff, 0xfeff)]

/-- A character that never stands in a plain name. -/
def isSeparating (c : Char) : Bool := Table.separating.holds c.toNat

theorem ne_of_isSeparating {c a : Char} (hc : isSeparating c = false)
    (ha : isSeparating a = true) : c ≠ a := by
  rintro rfl
  rw [hc] at ha
  cases ha

theorem isBlank_eq_false {c : Char} (hc : isSeparating c = false) : isBlank c = false := by
  rw [isSeparating, Table.separating, Ranges.holds, List.any_append, Bool.or_eq_false_iff] at hc
  exact hc.1

/-- Beyond ASCII, no letter or number is separating. -/
theorem not_separating_of_isAlphanumeric {c : Char} (hlarge : 128 ≤ c.toNat)
    (hc : isAlphanumeric c = true) : Table.separating.holds c.toNat = false := by
  have halphabetic : Table.alphabetic.apart Table.separating = true := by decide +kernel
  have hnumeric : Table.numeric.apart Table.separating = true := by decide +kernel
  simp only [isAlphanumeric, classify_of_le hlarge, Bool.or_eq_true] at hc
  exact hc.elim (Ranges.not_holds_of_apart halphabetic) (Ranges.not_holds_of_apart hnumeric)

/-- The lower case mapping takes no code point to one that is separating, unless it leaves it as it
is. -/
theorem not_separating_of_mem_caseImages {n i : Nat} (hn : Table.separating.holds n = false)
    (hi : i ∈ caseImages Table.lowerSpecial Table.lowerRuns n) :
    Table.separating.holds i = false := by
  have hspecial : ∀ e ∈ Table.lowerSpecial, ∀ i ∈ e.2, Table.separating.holds i = false := by
    decide +kernel
  have hruns : ∀ r ∈ Table.lowerRuns, Ranges.apart [r.images] Table.separating = true := by
    decide +kernel
  exact not_holds_of_mem_caseImages hspecial hruns hn hi

section

variable {a : Char} (ha : isSeparating a = true)
include ha

/-- The lower case of a letter or number holds no separating character. -/
theorem not_mem_lower {c : Char} (hc : isAlphanumeric c = true) : a ∉ lower c := by
  rw [lower]
  split
  · next hsmall =>
    have hascii : isAlphanumeric c = true → isSeparating c.toLower = false :=
      forall_ascii hsmall (by decide +kernel)
    intro hmem
    rw [List.mem_singleton.1 hmem, hascii hc] at ha
    cases ha
  · next hlarge =>
    intro hmem
    obtain ⟨n, hn, hchar⟩ := List.mem_map.1 hmem
    have hnull : a.toNat ≠ 0 := fun h0 ↦ by
      rw [isSeparating, h0] at ha
      exact absurd ha (by decide)
    have hc' := not_separating_of_isAlphanumeric (by omega) hc
    have hn' := not_separating_of_mem_caseImages hc' hn
    rw [toNat_of_ofNat_eq hchar hnull] at hn'
    rw [isSeparating, hn'] at ha
    cases ha

theorem not_mem_lowerWord {w : List Char} (hw : ∀ c ∈ w, isAlphanumeric c = true) :
    a ∉ lowerWord w := by
  induction w with
  | nil => simp [lowerWord]
  | cons c rest ih =>
    have hc := not_mem_lower ha (hw c List.mem_cons_self)
    cases rest with
    | nil =>
      rw [lowerWord]
      split
      · intro hmem
        rw [List.mem_singleton.1 hmem] at ha
        exact absurd ha (by decide)
      · exact hc
    | cons d ds =>
      rw [lowerWord, List.mem_append]
      rintro (hmem | hmem)
      · exact hc hmem
      · exact ih (fun e he ↦ hw e (List.mem_cons_of_mem c he)) hmem
      · simp

omit ha in
theorem not_mem_intercalate {sep : List Char} (hsep : a ∉ sep) (ws : List (List Char))
    (hws : ∀ w ∈ ws, a ∉ w) : a ∉ sep.intercalate ws := by
  induction ws with
  | nil => simp
  | cons w rest ih =>
    have hw := hws w List.mem_cons_self
    cases rest with
    | nil => simpa using hw
    | cons v vs =>
      have hrest := ih fun u hu ↦ hws u (List.mem_cons_of_mem w hu)
      rw [List.intercalate_cons_cons]
      simp only [List.mem_append, not_or]
      exact ⟨⟨hw, hsep⟩, hrest⟩

/-- **A snake case name holds no separating character**, whatever text it was made from. -/
theorem not_mem_snakeCase (name : List Char) : a ∉ snakeCase name := by
  have hunderscore : a ∉ ['_'] := fun hmem ↦ by
    rw [List.mem_singleton.1 hmem] at ha
    exact absurd ha (by decide)
  refine not_mem_intercalate hunderscore _ ?_
  intro part hpart
  obtain ⟨w, hw, rfl⟩ := List.mem_map.1 hpart
  exact not_mem_lowerWord ha fun c hc ↦ (of_mem_words hw hc).2

end

end TypedIds.Text
