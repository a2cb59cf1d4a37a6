import Mathlib.Data.List.TakeWhile
import TypedIds.Proofs.Token.Lexer
import TypedIds.Token.Name

/-!
# Texts that are words

The reader tries a literal first, then punctuation, and a word last, so a text that is an identifier
from its first character to its last is read as a word only if nothing else begins like it.  Each
reader of something else wants a character that no identifier has: a quote, a `#`, a parenthesis, or
a digit at the beginning.

**`Tree.read_of_plainWord`**: such a text is read as the word that it is.  With the converse
(`Tree.eq_text_of_read`) this says which texts without separating characters are names
(`isNameText_iff`).
-/

set_option autoImplicit false

namespace TypedIds

namespace Lexer

open Text (isIdentifierStart isIdentifierContinue isSeparating isHex hexValue singleQuote
  doubleQuote)

/-! ## What an identifier has -/

theorem plainWord?_eq_some_nil_iff {cs : List Char} :
    plainWord? cs = some [] ↔ ∃ c rest, cs = c :: rest ∧ isIdentifierStart c = true ∧
      ∀ d ∈ rest, isIdentifierContinue d = true := by
  constructor
  · intro h
    cases cs with
    | nil => cases h
    | cons c rest =>
      rw [plainWord?] at h
      split at h
      next hc => exact ⟨c, rest, rfl, hc, List.dropWhile_eq_nil_iff.mp (Option.some.inj h)⟩
      next => cases h
  · rintro ⟨c, rest, rfl, hc, hrest⟩
    rw [plainWord?, if_pos hc, List.dropWhile_eq_nil_iff.mpr hrest]

theorem not_mem_of_plainWord? {cs : List Char} (h : plainWord? cs = some []) {a : Char}
    (hstart : isIdentifierStart a = false) (hcontinue : isIdentifierContinue a = false) :
    a ∉ cs := by
  obtain ⟨c, rest, rfl, hc, hrest⟩ := plainWord?_eq_some_nil_iff.mp h
  rintro hmem
  obtain rfl | hmem := List.mem_cons.mp hmem
  · rw [hstart] at hc
    cases hc
  · rw [hrest a hmem] at hcontinue
    cases hcontinue

theorem ascii_of_isHex {c : Char} (h : isHex c = true) : c.toNat < 128 := by
  simp only [isHex, Char.isDigit, Bool.or_eq_true, Bool.and_eq_true, decide_eq_true_eq] at h
  obtain (⟨-, h⟩ | ⟨-, h⟩) | ⟨-, h⟩ := h
  · exact Text.ascii_of_le (d := '9') h (by decide)
  · exact Text.ascii_of_le h (by decide)
  · exact Text.ascii_of_le h (by decide)

section

variable {c : Char} (hc : isIdentifierStart c = true)
include hc

/-- A character that an identifier may begin with is not separating. -/
theorem not_isSeparating_of_start : isSeparating c = false := by
  by_cases hsmall : c.toNat < 128
  · exact Text.forall_ascii (P := fun c ↦ isIdentifierStart c = true → isSeparating c = false)
      hsmall (by decide +kernel) hc
  · have htable : Text.Table.identifierStart.apart Text.Table.separating = true := by
      decide +kernel
    have hunderscore : (c == '_') = false := by
      rw [beq_eq_false_iff_ne]
      rintro rfl
      exact hsmall (by decide)
    rw [isIdentifierStart, hunderscore, Text.classify_of_le (Nat.not_lt.mp hsmall),
      Bool.false_or] at hc
    exact Text.Ranges.not_holds_of_apart htable hc

/-- Nor is it a punctuation character. -/
theorem not_mem_marks_of_start : c ∉ marks := by
  intro hmark
  have hmarks : (marks.all fun m ↦ !isIdentifierStart m) = true := by decide +kernel
  have hnot := List.all_eq_true.mp hmarks c hmark
  rw [hc] at hnot
  cases hnot

/-- Nor a digit, which a hexadecimal digit of a value below ten would be. -/
theorem not_digit_of_start : c.isDigit = false ∧ (isHex c = true → ¬hexValue c < 10) := by
  have hascii (hhex : isHex c = true) : c.isDigit = false ∧ ¬hexValue c < 10 :=
    Text.forall_ascii
      (P := fun c ↦ isIdentifierStart c = true → isHex c = true →
        c.isDigit = false ∧ ¬hexValue c < 10)
      (ascii_of_isHex hhex) (by decide +kernel) hc hhex
  refine ⟨?_, fun hhex ↦ (hascii hhex).2⟩
  rw [← Bool.not_eq_true]
  intro hdigit
  have hhex : isHex c = true := by simp [isHex, hdigit]
  rw [(hascii hhex).1] at hdigit
  cases hdigit

end

/-! ## What begins otherwise -/

section

variable {cs : List Char}

theorem raw?_eq_none (h : doubleQuote ∉ cs) (f : Flavour) : raw? f cs = none := by
  rw [raw?]
  split
  next c rest hdrop =>
    have hc : c ∈ cs := List.mem_of_mem_drop (hdrop ▸ List.mem_cons_self)
    have hne : c ≠ doubleQuote := fun heq ↦ h (heq ▸ hc)
    simp [hne]
  next => rfl

theorem string?_eq_none (h : doubleQuote ∉ cs) : string? cs = none := by
  have hquote : '\x22' ∉ cs := h
  rw [string?.eq_def]
  split
  · simp at hquote
  · exact raw?_eq_none (fun hmem ↦ h (by simp [hmem])) _
  · simp at hquote
  · exact raw?_eq_none (fun hmem ↦ h (by simp [hmem])) _
  · simp at hquote
  · exact raw?_eq_none (fun hmem ↦ h (by simp [hmem])) _
  · rfl

theorem char?_eq_none (h : singleQuote ∉ cs) : char? cs = none := by
  have hquote : '\x27' ∉ cs := h
  rw [char?.eq_def]
  split
  · simp at hquote
  · simp at hquote
  · simp at hquote
  · simp at hquote
  · rfl

theorem afterError?_eq_none (h : '(' ∉ cs) : afterError? cs = none := by
  have hnot : ¬errorLiteral <+: cs := fun hbegins ↦ h (hbegins.subset (by decide))
  rw [afterError?, if_neg (by rwa [List.isPrefixOf_iff_prefix])]

end

/-- A number begins with a digit. -/
theorem number?_eq_none {c : Char} (rest : List Char) (hc : isIdentifierStart c = true) :
    floatDigits? (c :: rest) = none ∧ wholeDigits? (c :: rest) = none := by
  obtain ⟨hdigit, hhex⟩ := not_digit_of_start hc
  have hzero : c ≠ '0' := by
    rintro rfl
    exact absurd hdigit (by decide)
  have hbase : ¬(isHex c = true ∧ hexValue c < 10) := fun ⟨h, hlt⟩ ↦ hhex h hlt
  exact ⟨by simp [floatDigits?, hdigit], by simp [wholeDigits?, baseDigits?, hdigit, hzero, hbase]⟩

theorem startsMark_eq_false {c : Char} {rest : List Char} (hc : isIdentifierStart c = true) :
    startsMark (c :: rest) = false := by
  have hmark := not_mem_marks_of_start hc
  have hslash : c ≠ '/' := by
    rintro rfl
    exact hmark (by decide)
  simp [startsMark, hslash, hmark]

section

variable {cs : List Char} (h : plainWord? cs = some [])
include h

theorem literal?_eq_none : literal? cs = none := by
  have hstring : string? cs = none :=
    string?_eq_none (not_mem_of_plainWord? h rfl rfl)
  have hchar : char? cs = none :=
    char?_eq_none (not_mem_of_plainWord? h rfl rfl)
  obtain ⟨c, rest, rfl, hc, -⟩ := plainWord?_eq_some_nil_iff.mp h
  obtain ⟨hfloat, hwhole⟩ := number?_eq_none rest hc
  rw [literal?, hstring, hchar, hfloat, hwhole]
  rfl

/-- An identifier does not begin like a literal, and it has no raw mark. -/
theorem word?_of_plainWord? : word? cs = some [] := by
  have hmarks : (literalStarts.all fun l ↦
      l.any fun a ↦ !isIdentifierStart a && !isIdentifierContinue a) = true := by
    decide +kernel
  have hstarts : literalStarts.any (·.isPrefixOf cs) = false := by
    rw [List.any_eq_false]
    intro l hl hbegins
    obtain ⟨a, ha, hnot⟩ := List.any_eq_true.mp (List.all_eq_true.mp hmarks l hl)
    simp only [Bool.and_eq_true, Bool.not_eq_true'] at hnot
    exact not_mem_of_plainWord? h hnot.1 hnot.2
      ((List.isPrefixOf_iff_prefix.mp hbegins).subset ha)
  have hraw : '#' ∉ cs := not_mem_of_plainWord? h rfl rfl
  rw [word?, hstarts, anyWord?.eq_def]
  split
  next => cases ‹false = true›
  next =>
    split
    next => exact absurd (by simp) hraw
    next => exact h

/-- **An identifier is read as a word.** -/
theorem leaf?_of_plainWord? (p : Place) :
    leaf? p cs = some (.word (String.ofList cs) ⟨p, p.after cs⟩, []) := by
  have hliteral := literal?_eq_none h
  have herror : afterError? cs = none :=
    afterError?_eq_none (not_mem_of_plainWord? h rfl rfl)
  have hword := word?_of_plainWord? h
  obtain ⟨c, rest, rfl, hc, -⟩ := plainWord?_eq_some_nil_iff.mp h
  simp [leaf?, hliteral, herror, startsMark_eq_false hc, hword, consumed]

end

end Lexer

open Lexer (plainWord?)

/-- **A text that is an identifier is read as the word that it is.** -/
theorem Tree.read_of_plainWord {text : String} (h : plainWord? text.toList = some []) :
    ∃ s, Tree.read text = .ok [.word text s] := by
  obtain ⟨c, rest, hcs, hc, -⟩ := Lexer.plainWord?_eq_some_nil_iff.mp h
  have hseparating := Lexer.not_isSeparating_of_start hc
  have hleaf := Lexer.leaf?_of_plainWord? h Place.origin
  rw [String.ofList_toList] at hleaf
  refine ⟨⟨Place.origin, Place.origin.after text.toList⟩, ?_⟩
  rw [Tree.read_eq_readFrom (by simp [hcs, hseparating])]
  rw [hcs] at hleaf ⊢
  rw [List.length_cons, Lexer.readFrom_cons hseparating, hleaf]
  rfl

/-! ## Names -/

/-- A text without separating characters is a name if it is an identifier and no keyword. -/
theorem isNameText_iff {text : String} (hchars : ∀ c ∈ text.toList, Text.isSeparating c = false) :
    isNameText text = true ↔ plainWord? text.toList = some [] ∧ isName text = true := by
  rw [isNameText]
  constructor
  · intro h
    split at h
    next word s hread =>
      obtain ⟨rfl, hplain⟩ := Tree.eq_text_of_read hchars hread
      exact ⟨hplain, h⟩
    next => cases h
  · rintro ⟨hplain, hname⟩
    obtain ⟨s, hread⟩ := Tree.read_of_plainWord hplain
    rw [hread]
    exact hname

end TypedIds
