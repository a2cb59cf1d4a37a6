import TypedIds.Proofs.Text.Words
import TypedIds.Token.Lexer

/-!
# Words of a text

What is taken for a word begins with a character that an identifier may begin with.  Nothing else is
known of words: keywords are words, and raw words are.

A text that holds nothing at which the reader would do something else is a single word at most, the
whole text (`Tree.eq_text_of_read`).
-/

set_option autoImplicit false

namespace TypedIds

/-- A word begins with a character that an identifier may begin with. -/
def StartsName (w : String) : Prop := w.toList.head?.any Text.isIdentifierStart = true

instance (w : String) : Decidable (StartsName w) := inferInstanceAs (Decidable (_ = true))

namespace Lexer

/-! ## One word -/

theorem plainWord?_eq_some {cs after : List Char} (h : plainWord? cs = some after) :
    ∃ c rest, cs = c :: rest ∧ Text.isIdentifierStart c = true ∧
      after.length ≤ rest.length := by
  cases cs with
  | nil => cases h
  | cons c rest =>
    rw [plainWord?] at h
    split at h
    next hc =>
      obtain rfl := Option.some.inj h
      exact ⟨c, rest, rfl, hc, (List.dropWhile_suffix _).length_le⟩
    next => cases h

theorem plainWord?_suffix {cs after : List Char} (h : plainWord? cs = some after) :
    after <:+ cs := by
  cases cs with
  | nil => cases h
  | cons c rest =>
    rw [plainWord?] at h
    split at h
    · obtain rfl := Option.some.inj h
      exact (List.dropWhile_suffix _).trans (List.suffix_cons _ _)
    · cases h

theorem plainWord?_of_word? {cs after : List Char} (hmark : '#' ∉ cs)
    (h : word? cs = some after) : plainWord? cs = some after := by
  rw [word?] at h
  split at h
  · cases h
  · rw [anyWord?.eq_def] at h
    split at h
    · exact absurd (by simp) hmark
    · exact h

/-- An identifier begins like one, and it has this character at least. -/
theorem anyWord?_eq_some {cs after : List Char} (h : anyWord? cs = some after) :
    ∃ c rest, cs = c :: rest ∧ Text.isIdentifierStart c = true ∧
      after.length ≤ rest.length := by
  rw [anyWord?.eq_def] at h
  split at h
  next rest =>
    split at h
    next tail hplain =>
      obtain ⟨c, rest', rfl, -, hlength⟩ := plainWord?_eq_some hplain
      split at h
      · cases h
      · obtain rfl := Option.some.inj h
        refine ⟨'r', '#' :: c :: rest', rfl, rfl, ?_⟩
        simp only [List.length_cons]
        omega
    next => cases h
  next => exact plainWord?_eq_some h

theorem startsName_of_anyWord? {cs after : List Char} (h : anyWord? cs = some after) :
    StartsName (String.ofList (consumed cs after)) := by
  obtain ⟨c, rest, rfl, hc, hlength⟩ := anyWord?_eq_some h
  obtain ⟨n, hn⟩ : ∃ n, (c :: rest).length - after.length = n + 1 :=
    ⟨rest.length - after.length, by rw [List.length_cons]; omega⟩
  rw [StartsName, consumed, hn, List.take_succ_cons, String.toList_ofList]
  exact hc

theorem anyWord?_of_word? {cs after : List Char} (h : word? cs = some after) :
    anyWord? cs = some after := by
  rw [word?] at h
  split at h
  · cases h
  · exact h

/-- A leaf that is a word is what has been cut off as one. -/
theorem word?_of_leaf? {p : Place} {cs rest : List Char} {w : String} {s : Span}
    (h : leaf? p cs = some (.word w s, rest)) :
    word? cs = some rest ∧ w = String.ofList (consumed cs rest) := by
  rw [leaf?.eq_def] at h
  dsimp only at h
  split at h
  · cases h
  · split at h
    · split at h
      · split at h
        · obtain ⟨after, -, h⟩ := Option.map_eq_some_iff.mp h
          split at h <;> cases h
        · cases h
      · obtain ⟨after, hafter, h⟩ := Option.map_eq_some_iff.mp h
        cases h
        exact ⟨hafter, rfl⟩
    · cases h

/-! ## A text that is one word -/

/-- The trees that have been read outside of all groups, last first. -/
def settled : List OpenGroup → List Tree → List Tree
  | [], done => done
  | g :: outer, _ => settled outer g.before

theorem settled_suffix {done more : List Tree} (h : done <:+ more) (stack : List OpenGroup) :
    settled stack done <:+ settled stack more := by
  cases stack with
  | nil => exact h
  | cons g outer => exact List.suffix_rfl

/-- What has been read outside of all groups stays at the beginning of the result. -/
theorem readFrom_keeps_settled (n : Nat) {p : Place} {stack : List OpenGroup} {done ts : List Tree}
    {cs : List Char} (h : readFrom n p stack done cs = .ok ts) :
    (settled stack done).reverse <+: ts := by
  induction n generalizing p stack done cs with
  | zero => cases h
  | succ n ih =>
    have hmore {stack : List OpenGroup} {done more : List Tree} {p : Place} {cs : List Char}
        (hdone : done <:+ more) (h : readFrom n p stack more cs = .ok ts) :
        (settled stack done).reverse <+: ts :=
      (List.reverse_prefix.mpr (settled_suffix hdone stack)).trans (ih h)
    rw [readFrom.eq_def] at h
    dsimp only at h
    split at h
    -- a blank or a comment, and then a doc comment
    · exact ih h
    split at h
    · exact hmore (List.suffix_append _ _) h
    split at h
    -- the end
    · split at h
      · obtain rfl := Except.ok.inj h
        exact List.prefix_rfl
      · cases h
    next c rest =>
      split at h
      -- a group is opened, or closed
      · simpa only [settled] using ih h
      · split at h
        next g outer =>
          split at h
          · rw [settled]
            exact hmore (List.suffix_cons _ _) h
          · cases h
        next => cases h
      · split at h
        next => exact hmore (List.suffix_cons _ _) h
        next => cases h

/-- Neither a blank nor a comment nor a group begins with a character that is not separating, so a
leaf is read. -/
theorem readFrom_cons {n : Nat} {p : Place} {stack : List OpenGroup} {done : List Tree} {c : Char}
    {cs : List Char} (hc : Text.isSeparating c = false) :
    readFrom (n + 1) p stack done (c :: cs) =
      match leaf? p (c :: cs) with
      | some (t, rest) => readFrom n t.span.stop stack (t :: done) rest
      | none => .error p := by
  have hne {a : Char} (ha : Text.isSeparating a = true) : c ≠ a := Text.ne_of_isSeparating hc ha
  have hslash : c ≠ '/' := hne (by decide)
  have hblank : blank? (c :: cs) = none := by
    have hright : c ≠ '\u200e' := hne (by decide)
    have hleft : c ≠ '\u200f' := hne (by decide)
    simp [blank?, hslash, Text.isBlank_eq_false hc, hright, hleft]
  have hdoc : doc? (c :: cs) = none := by
    simp [doc?, hslash]
  have hopens : opens? (c :: cs) = none := by
    have hopener : opener? c = none := List.find?_eq_none.mpr fun d _ hd ↦
      hne (a := d.opening) (by cases d <;> decide) (eq_of_beq hd).symm
    simp [opens?, hopener]
  have hcloser : closer? c = none := List.find?_eq_none.mpr fun d _ hd ↦
    hne (a := d.closing) (by cases d <;> decide) (eq_of_beq hd).symm
  rw [readFrom.eq_def]
  cases hleaf : leaf? p (c :: cs) <;> simp [hblank, hdoc, hopens, hcloser, hleaf]

theorem readFrom_leaf {n : Nat} {p : Place} {done ts : List Tree} {c : Char} {cs : List Char}
    (hc : Text.isSeparating c = false) (h : readFrom n p [] done (c :: cs) = .ok ts) :
    ∃ m t rest, leaf? p (c :: cs) = some (t, rest) ∧
      readFrom m t.span.stop [] (t :: done) rest = .ok ts := by
  cases n with
  | zero => cases h
  | succ n =>
    rw [readFrom_cons hc] at h
    split at h
    next t rest hleaf => exact ⟨n, t, rest, hleaf, h⟩
    next => cases h

/-- A text without separating characters that is read as one word is that word, which is not raw. -/
theorem readFrom_word {n : Nat} {p : Place} {cs : List Char} {w : String} {s : Span}
    (hcs : ∀ c ∈ cs, Text.isSeparating c = false)
    (h : readFrom n p [] [] cs = .ok [.word w s]) :
    w = String.ofList cs ∧ plainWord? cs = some [] := by
  cases cs with
  | nil =>
    cases n with
    | zero => cases h
    | succ n => simp [readFrom, blank?, doc?] at h
  | cons c cs =>
    have hmark : '#' ∉ c :: cs := fun hmem ↦ absurd (hcs _ hmem) (by decide)
    obtain ⟨m, t, rest, hleaf, h⟩ := readFrom_leaf (hcs c List.mem_cons_self) h
    obtain ⟨ts, hts⟩ := readFrom_keeps_settled m h
    obtain ⟨rfl, -⟩ : t = .word w s ∧ ts = [] := by
      simpa [settled] using hts
    obtain ⟨hleaf, hw⟩ := word?_of_leaf? hleaf
    have hword := plainWord?_of_word? hmark hleaf
    cases rest with
    | nil => exact ⟨by simpa [consumed] using hw, hword⟩
    | cons d rest =>
      -- Something else would have been read after the word.
      have hd : d ∈ c :: cs := (plainWord?_suffix hword).subset List.mem_cons_self
      obtain ⟨m, t, rest, -, h⟩ := readFrom_leaf (hcs d hd) h
      have hlength := (readFrom_keeps_settled m h).length_le
      simp [settled] at hlength

end Lexer

/-- No byte order mark is passed over in a text that does not begin with a separating character. -/
theorem Tree.read_eq_readFrom {text : String}
    (hhead : ∀ c ∈ text.toList.head?, Text.isSeparating c = false) :
    Tree.read text =
      Lexer.readFrom (text.toList.length + 1) Place.origin [] [] text.toList := by
  rw [Tree.read]
  cases hcs : text.toList with
  | nil => rfl
  | cons c cs =>
    have horder : c ≠ Lexer.orderMark :=
      Text.ne_of_isSeparating (hhead c (by simp [hcs])) (by decide)
    simp [horder]

/-- **A text without separating characters is a word or none**: when one word is read from it, it is
that word, and it has no raw mark. -/
theorem Tree.eq_text_of_read {text word : String} {s : Span}
    (hchars : ∀ c ∈ text.toList, Text.isSeparating c = false)
    (h : Tree.read text = .ok [.word word s]) :
    word = text ∧ Lexer.plainWord? text.toList = some [] := by
  rw [Tree.read_eq_readFrom fun c hc ↦ hchars c (List.mem_of_mem_head? hc)] at h
  obtain ⟨hword, hplain⟩ := Lexer.readFrom_word hchars h
  exact ⟨by rw [hword, String.ofList_toList], hplain⟩

end TypedIds
