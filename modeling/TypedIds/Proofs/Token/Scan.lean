import TypedIds.Proofs.Token.Word

/-!
# Scanning a text for its parentheses

A machine that goes through a text character by character and counts the parentheses that are open.
It passes over what is quoted, where a parenthesis counts for nothing: texts, raw texts and
characters.  It knows no other tokens, and it does not have to: outside of quotations only
parentheses and quotation marks matter to it.

What the reader of tokens takes for a literal, the machine passes over, and so it does with words
and numbers: it comes back to where it was (`Scan.passes_of_literal?`).
-/

set_option autoImplicit false

namespace TypedIds

open Text (isIdentifierStart isIdentifierContinue isHex singleQuote doubleQuote)

/-! ## The machine -/

/-- What the characters before the next one tell about it. -/
inductive Scan.Mode where
  | plain
  /-- After an `r` and so many `#`: a quotation that begins here is raw. -/
  | letterR (marks : Nat)
  /-- After a single quote: a character or a lifetime comes next. -/
  | quote
  /-- After a single quote and a character, which is an `r` or not. -/
  | quoted (isR : Bool)
  | charEscape
  | char
  | text
  | textEscape
  | raw (marks : Nat)
  /-- After a quotation mark in a raw text and so many `#`. -/
  | rawEnd (marks seen : Nat)
  deriving DecidableEq

/-- Where a scan stands that has begun after an opening parenthesis. -/
inductive Scan where
  /-- The parenthesis is open, and so many in it. -/
  | inside (m : Scan.Mode) (depth : Nat)
  /-- The parenthesis has been closed by the last character. -/
  | closed
  | beyond
  deriving DecidableEq

namespace Scan

namespace Mode

/-- A character outside of quotations. -/
def plainStep (c : Char) : Mode :=
  if c = doubleQuote then .text
  else if c = singleQuote then .quote
  else if c = 'r' then .letterR 0
  else .plain

/-- What is known after another character. -/
def step : Mode → Char → Mode
  | plain, c => plainStep c
  | letterR n, c =>
    if c = '#' then .letterR (n + 1) else if c = doubleQuote then .raw n else plainStep c
  | quote, c => if c = '\\' then .charEscape else .quoted (c = 'r')
  | quoted isR, c =>
    if c = singleQuote then .plain
    else if isR ∧ c = '#' then .letterR 1
    else if isR ∧ c = doubleQuote then .raw 0
    else plainStep c
  | charEscape, _ => .char
  | char, c => if c = singleQuote then .plain else .char
  | text, c => if c = doubleQuote then .plain else if c = '\\' then .textEscape else .text
  | textEscape, _ => .text
  | raw n, c => if c = doubleQuote then (if n = 0 then .plain else .rawEnd n 0) else .raw n
  | rawEnd n k, c =>
    if c = '#' then (if k + 1 = n then .plain else .rawEnd n (k + 1))
    else if c = doubleQuote then .rawEnd n 0
    else .raw n

/-- Outside of quotations a parenthesis counts. -/
def isOutside : Mode → Bool
  | plain | letterR _ | quoted _ => true
  | _ => false

end Mode

/-- Where the scan stands after another character. -/
def step : Scan → Char → Scan
  | inside m d, c =>
    if m.isOutside ∧ c = '(' then inside .plain (d + 1)
    else if m.isOutside ∧ c = ')' then (match d with | 0 => closed | d + 1 => inside .plain d)
    else inside (m.step c) d
  | closed, _ => beyond
  | beyond, _ => beyond

/-- Where the scan stands after some more characters. -/
def run (s : Scan) (cs : List Char) : Scan := cs.foldl step s

@[simp] theorem run_nil (s : Scan) : s.run [] = s := rfl

@[simp] theorem run_cons (s : Scan) (c : Char) (cs : List Char) :
    s.run (c :: cs) = (s.step c).run cs := rfl

theorem run_append (s : Scan) (cs ds : List Char) : s.run (cs ++ ds) = (s.run cs).run ds :=
  List.foldl_append

/-- A scan that has come to an end does not begin again. -/
theorem run_beyond (cs : List Char) : run beyond cs = beyond := by
  induction cs with
  | nil => rfl
  | cons c cs ih => exact ih

/-! ## Characters that mean nothing to the machine -/

/-- A character that is neither a parenthesis nor a quotation mark. -/
def IsPlain (c : Char) : Prop := c ≠ '(' ∧ c ≠ ')' ∧ c ≠ singleQuote ∧ c ≠ doubleQuote

instance (c : Char) : Decidable (IsPlain c) := inferInstanceAs (Decidable (_ ∧ _))

/-- The machine is outside of quotations, in so many parentheses. -/
def IsOutside (depth : Nat) (s : Scan) : Prop := ∃ m, m.isOutside = true ∧ s = inside m depth

theorem isOutside_plain (d : Nat) : IsOutside d (inside .plain d) := ⟨_, rfl, rfl⟩

/-- Outside of quotations a plain character changes nothing that matters. -/
theorem IsOutside.step {s : Scan} {d : Nat} (hs : IsOutside d s) {c : Char} (hc : IsPlain c) :
    IsOutside d (s.step c) := by
  obtain ⟨m, hm, rfl⟩ := hs
  obtain ⟨hopen, hclose, hsingle, hdouble⟩ := hc
  have hplain : (Mode.plainStep c).isOutside = true := by
    rw [Mode.plainStep, if_neg hdouble, if_neg hsingle]
    split <;> rfl
  refine ⟨m.step c, ?_, by simp [Scan.step, hopen, hclose]⟩
  cases m with
  | plain => exact hplain
  | letterR n =>
    rw [Mode.step, if_neg hdouble]
    split
    · rfl
    · exact hplain
  | quoted isR =>
    rw [Mode.step, if_neg hsingle]
    simp only [hdouble, and_false, if_false]
    split
    · rfl
    · exact hplain
  | _ => cases hm

theorem IsOutside.run {s : Scan} {d : Nat} (hs : IsOutside d s) {cs : List Char}
    (hcs : ∀ c ∈ cs, IsPlain c) : IsOutside d (s.run cs) := by
  induction cs generalizing s with
  | nil => exact hs
  | cons c cs ih =>
    obtain ⟨hc, hcs⟩ := List.forall_mem_cons.mp hcs
    exact ih (hs.step hc) hcs

theorem isPlain_of_continue {c : Char} (h : isIdentifierContinue c = true) : IsPlain c := by
  refine ⟨?_, ?_, ?_, ?_⟩ <;> rintro rfl <;> revert h <;> decide

theorem isPlain_of_start {c : Char} (h : isIdentifierStart c = true) : IsPlain c := by
  refine ⟨?_, ?_, ?_, ?_⟩ <;> rintro rfl <;> revert h <;> decide

/-- What stands before the rest of a text are plain characters. -/
def PlainTo (cs rest : List Char) : Prop := ∃ l, cs = l ++ rest ∧ ∀ c ∈ l, IsPlain c

namespace PlainTo

variable {cs ds es : List Char}

theorem refl (cs : List Char) : PlainTo cs cs := ⟨[], rfl, nofun⟩

theorem cons {c : Char} (hc : IsPlain c) (h : PlainTo cs ds) : PlainTo (c :: cs) ds := by
  obtain ⟨l, rfl, hl⟩ := h
  exact ⟨c :: l, rfl, List.forall_mem_cons.mpr ⟨hc, hl⟩⟩

theorem trans (h : PlainTo cs ds) (h' : PlainTo ds es) : PlainTo cs es := by
  obtain ⟨l, rfl, hl⟩ := h
  obtain ⟨l', rfl, hl'⟩ := h'
  exact ⟨l ++ l', (List.append_assoc ..).symm, List.forall_mem_append.mpr ⟨hl, hl'⟩⟩

theorem dropWhile {p : Char → Bool} (hp : ∀ c, p c = true → IsPlain c) (cs : List Char) :
    PlainTo cs (cs.dropWhile p) :=
  ⟨cs.takeWhile p, List.takeWhile_append_dropWhile.symm, fun c hc ↦
    hp c (List.mem_takeWhile_imp hc)⟩

end PlainTo

/-! ## Literals -/

/-- The machine comes back out of all quotations before the rest of a text. -/
def PassesTo (s : Scan) (d : Nat) (cs rest : List Char) : Prop :=
  ∃ l, cs = l ++ rest ∧ IsOutside d (s.run l)

namespace PassesTo

variable {s : Scan} {d : Nat} {cs ds es : List Char}

theorem after {l : List Char} (h : PassesTo (s.run l) d cs ds) : PassesTo s d (l ++ cs) ds := by
  obtain ⟨l', rfl, hl⟩ := h
  exact ⟨l ++ l', (List.append_assoc ..).symm, run_append s l l' ▸ hl⟩

theorem cons {c : Char} (h : PassesTo (s.step c) d cs ds) : PassesTo s d (c :: cs) ds :=
  after (l := [c]) h

theorem trans (h : PassesTo s d cs ds) (h' : PlainTo ds es) : PassesTo s d cs es := by
  obtain ⟨l, rfl, hl⟩ := h
  obtain ⟨l', rfl, hl'⟩ := h'
  exact ⟨l ++ l', (List.append_assoc ..).symm, run_append s l l' ▸ hl.run hl'⟩

theorem of_plainTo (hs : IsOutside d s) (h : PlainTo cs ds) : PassesTo s d cs ds :=
  trans ⟨[], rfl, hs⟩ h

end PassesTo

open Lexer

theorem plainTo_of_plainWord? {cs rest : List Char} (h : plainWord? cs = some rest) :
    PlainTo cs rest := by
  cases cs with
  | nil => cases h
  | cons c cs =>
    rw [plainWord?] at h
    split at h
    next hc =>
      obtain rfl := Option.some.inj h
      exact .cons (isPlain_of_start hc) (.dropWhile (fun _ ↦ isPlain_of_continue) cs)
    next => cases h

theorem plainTo_suffix (cs : List Char) : PlainTo cs (suffix cs) := by
  rw [suffix]
  cases h : plainWord? cs with
  | none => exact .refl cs
  | some rest => exact plainTo_of_plainWord? h

/-- A character that means nothing in a quotation. -/
def IsInert (c : Char) : Prop := c ≠ doubleQuote ∧ c ≠ singleQuote ∧ c ≠ '\\'

theorem isInert_of_isHex {c : Char} (h : isHex c = true) : IsInert c := by
  refine ⟨?_, ?_, ?_⟩ <;> rintro rfl <;> revert h <;> decide

theorem isInert_of_octal {c : Char} (h : '0' ≤ c ∧ c ≤ '7') : IsInert c := by
  refine ⟨?_, ?_, ?_⟩ <;> rintro rfl <;> revert h <;> decide

/-! ### Texts -/

/-- What the machine knows at a place in a text between double quotes. -/
def quoteMode : QuoteState → Mode
  | .escape => .textEscape
  | .closed => .plain
  | _ => .text

theorem text_step {c : Char} (hquote : c ≠ doubleQuote) (hescape : c ≠ '\\') :
    Mode.text.step c = .text := by
  rw [Mode.step, if_neg hquote, if_neg hescape]

theorem quoteMode_plainStep {f : Flavour} {s : QuoteState} {c : Char}
    (h : QuoteState.plainStep f c = some s) : Mode.text.step c = quoteMode s := by
  rw [QuoteState.plainStep] at h
  simp only [beq_iff_eq] at h
  split at h
  next hc =>
    cases h
    rw [Mode.step, if_pos hc]
    rfl
  next hquote =>
    split at h
    next hc =>
      cases h
      rw [Mode.step, if_neg hquote, if_pos hc]
      rfl
    next hescape =>
      rw [text_step hquote hescape]
      split at h
      · cases h
        rfl
      · split at h
        · cases h
        · split at h <;> cases h
          rfl

/-- The machine follows the reader through a text between double quotes. -/
theorem quoteMode_step {f : Flavour} {s s' : QuoteState} {c : Char} (h : s.step f c = some s') :
    (quoteMode s).step c = quoteMode s' := by
  have hhex : isHex c = true → IsInert c := isInert_of_isHex
  have hoctal : '0' ≤ c ∧ c ≤ '7' → IsInert c := isInert_of_octal
  cases s with
  | plain => exact quoteMode_plainStep h
  | closed => cases h
  | continued =>
    simp only [QuoteState.step] at h
    grind [quoteMode, Mode.step, doubleQuote, quoteMode_plainStep]
  | _ =>
    simp only [QuoteState.step] at h
    grind [quoteMode, Mode.step, doubleQuote, IsInert]

theorem isOutside_quoteMode {s : QuoteState} (h : s ≠ .closed) :
    (quoteMode s).isOutside = false := by
  cases s <;> first | rfl | exact absurd rfl h

/-- In a quotation only what is known changes. -/
theorem step_of_not_isOutside {m : Mode} (hm : m.isOutside = false) (d : Nat) (c : Char) :
    (inside m d).step c = inside (m.step c) d := by
  simp [Scan.step, hm]

theorem passesTo_of_quoted? {f : Flavour} {s : QuoteState} {cs rest : List Char}
    (h : quoted? f s cs = some rest) (d : Nat) : PassesTo (inside (quoteMode s) d) d cs rest := by
  induction cs generalizing s with
  | nil => cases h
  | cons c cs ih =>
    have hs : s ≠ .closed := by
      rintro rfl
      simp [quoted?, QuoteState.step] at h
    rw [quoted?] at h
    refine .cons ?_
    rw [step_of_not_isOutside (isOutside_quoteMode hs)]
    split at h
    next => cases h
    next hstep =>
      obtain rfl := Option.some.inj h
      rw [quoteMode_step hstep]
      exact .of_plainTo (isOutside_plain d) (plainTo_suffix cs)
    next hstep =>
      rw [quoteMode_step hstep]
      exact ih h

/-! ### Raw texts -/

/-- The machine is in a raw text that has so many `#`.  If it has seen a quotation mark and some of
them, fewer than are missing follow. -/
def InRaw (n : Nat) (m : Mode) (cs : List Char) : Prop :=
  m = .raw n ∨ ∃ k < n, m = .rawEnd n k ∧ ¬List.replicate (n - k) '#' <+: cs

theorem InRaw.isOutside {n : Nat} {m : Mode} {cs : List Char} (h : InRaw n m cs) :
    m.isOutside = false := by
  obtain rfl | ⟨k, -, rfl, -⟩ := h <;> rfl

/-- The machine stays in a raw text where it does not end. -/
theorem InRaw.step {n : Nat} {m : Mode} {c : Char} {cs : List Char} (h : InRaw n m (c :: cs))
    (hnot : ¬(c = doubleQuote ∧ List.replicate n '#' <+: cs)) : InRaw n (m.step c) cs := by
  by_cases hquote : c = doubleQuote
  · have hn : n ≠ 0 := by
      rintro rfl
      exact hnot ⟨hquote, List.nil_prefix⟩
    have hmode : m.step c = .rawEnd n 0 := by
      obtain rfl | ⟨k, -, rfl, -⟩ := h
      · rw [Mode.step, if_pos hquote, if_neg hn]
      · have hmark : c ≠ '#' := by
          rintro rfl
          exact absurd hquote (by decide)
        rw [Mode.step, if_neg hmark, if_pos hquote]
    exact .inr ⟨0, Nat.pos_of_ne_zero hn, hmode, fun hprefix ↦ hnot ⟨hquote, hprefix⟩⟩
  · obtain rfl | ⟨k, hk, rfl, hmarks⟩ := h
    · exact .inl (by rw [Mode.step, if_neg hquote])
    · obtain ⟨j, hj⟩ : ∃ j, n - k = j + 1 := ⟨n - k - 1, by omega⟩
      rw [hj, List.replicate_succ, List.cons_prefix_cons, not_and] at hmarks
      by_cases hmark : c = '#'
      · have hlast : k + 1 ≠ n := by
          intro heq
          obtain rfl : j = 0 := by omega
          exact hmarks hmark.symm List.nil_prefix
        refine .inr ⟨k + 1, by omega, by rw [Mode.step, if_pos hmark, if_neg hlast], ?_⟩
        rw [show n - (k + 1) = j by omega]
        exact hmarks hmark.symm
      · exact .inl (by rw [Mode.step, if_neg hmark, if_neg hquote])

/-- The `#` after the quotation mark end a raw text. -/
theorem run_rawEnd {n k : Nat} (hk : k < n) (d : Nat) :
    run (inside (.rawEnd n k) d) (List.replicate (n - k) '#') = inside .plain d := by
  obtain ⟨j, rfl⟩ : ∃ j, n = k + j + 1 := ⟨n - k - 1, by omega⟩
  rw [show k + j + 1 - k = j + 1 by omega]
  induction j generalizing k with
  | zero => simp [Scan.step, Mode.isOutside, Mode.step]
  | succ j ih =>
    have hnext := @ih (k + 1) (by omega)
    rw [show k + 1 + j + 1 = k + (j + 1) + 1 by omega] at hnext
    rw [List.replicate_succ, run_cons, step_of_not_isOutside rfl, Mode.step, if_pos rfl,
      if_neg (by omega)]
    exact hnext

theorem InRaw.run_end {n : Nat} {m : Mode} {cs : List Char} (h : InRaw n m cs) (d : Nat) :
    run (inside (m.step doubleQuote) d) (List.replicate n '#') = inside .plain d := by
  have hmode : m.step doubleQuote = if n = 0 then .plain else .rawEnd n 0 := by
    obtain rfl | ⟨k, hk, rfl, -⟩ := h
    · rfl
    · rw [if_neg (by omega)]
      rfl
  rw [hmode]
  split
  next hn =>
    subst hn
    rfl
  next hn => exact run_rawEnd (Nat.pos_of_ne_zero hn) d

theorem passesTo_of_rawBody? {f : Flavour} {n : Nat} {m : Mode} {cs rest : List Char}
    (hm : InRaw n m cs) (h : rawBody? f (List.replicate n '#') cs = some rest) (d : Nat) :
    PassesTo (inside m d) d cs rest := by
  have hgoes {c : Char} {cs : List Char} {m : Mode}
      (hend : ¬(c == doubleQuote && (List.replicate n '#').isPrefixOf cs) = true)
      (hm : InRaw n m (c :: cs)) : InRaw n (m.step c) cs := by
    refine hm.step ?_
    simpa only [Bool.and_eq_true, beq_iff_eq, List.isPrefixOf_iff_prefix] using hend
  fun_induction rawBody? f (List.replicate n '#') cs generalizing m with
  | case2 c cs hend =>
    simp only [Bool.and_eq_true, beq_iff_eq, List.isPrefixOf_iff_prefix] at hend
    obtain ⟨rfl, tail, rfl⟩ := hend
    obtain rfl := Option.some.inj h
    refine .cons ?_
    rw [step_of_not_isOutside hm.isOutside, List.drop_left]
    refine .trans ⟨_, rfl, ?_⟩ (plainTo_suffix tail)
    rw [hm.run_end]
    exact isOutside_plain d
  | case3 c hreturn cs hend ih =>
    have hfeed : ¬('\n' == doubleQuote && (List.replicate n '#').isPrefixOf cs) = true :=
      Bool.false_ne_true
    refine .cons (.cons ?_)
    have hm' := hgoes hend hm
    rw [step_of_not_isOutside hm.isOutside, step_of_not_isOutside hm'.isOutside]
    exact ih (hgoes hfeed hm') h
  | case7 c cs hend _ _ _ ih =>
    refine .cons ?_
    rw [step_of_not_isOutside hm.isOutside]
    exact ih (hgoes hend hm) h
  | _ => cases h

theorem run_letterR (n k d : Nat) :
    run (inside (.letterR k) d) (List.replicate n '#') = inside (.letterR (k + n)) d := by
  induction n generalizing k with
  | zero => rfl
  | succ n ih =>
    have hstep : (inside (.letterR k) d).step '#' = inside (.letterR (k + 1)) d := by
      simp [Scan.step, Mode.step]
    rw [List.replicate_succ, run_cons, hstep, ih, Nat.add_right_comm, Nat.add_assoc]

/-- After a character that counts as an `r` the machine passes over a raw text. -/
theorem passesTo_of_raw? {f : Flavour} {m : Mode} {d : Nat} {cs rest : List Char}
    (hm : ∀ c ∈ ['#', doubleQuote], (inside m d).step c = (inside (.letterR 0) d).step c)
    (h : raw? f cs = some rest) : PassesTo (inside m d) d cs rest := by
  have hmarks : ∀ c ∈ cs.takeWhile (· == '#'), c = '#' := fun c hc ↦
    beq_iff_eq.mp (List.mem_takeWhile_imp (p := (· == '#')) hc)
  obtain ⟨n, hn⟩ : ∃ n, cs.takeWhile (· == '#') = List.replicate n '#' :=
    ⟨_, List.eq_replicate_of_mem hmarks⟩
  obtain ⟨tail, htail⟩ : ∃ tail, cs = List.replicate n '#' ++ tail :=
    ⟨_, (hn ▸ List.takeWhile_append_dropWhile).symm⟩
  rw [raw?.eq_def] at h
  dsimp only at h
  rw [hn, htail, List.drop_left] at h
  split at h
  next c body =>
    split at h
    next hc =>
      obtain rfl : c = doubleQuote := by simp_all
      have hstart : (inside m d).run (List.replicate n '#' ++ [doubleQuote]) =
          (inside (.letterR 0) d).run (List.replicate n '#' ++ [doubleQuote]) := by
        cases n with
        | zero => exact hm _ (by simp)
        | succ n => rw [List.replicate_succ, List.cons_append, run_cons, run_cons, hm _ (by simp)]
      have hraw : (inside m d).run (List.replicate n '#' ++ [doubleQuote]) =
          inside (.raw n) d := by
        rw [hstart, run_append, run_letterR, Nat.zero_add]
        simp [Scan.step, Mode.step, doubleQuote]
      rw [htail, List.append_cons]
      exact .after (hraw ▸ passesTo_of_rawBody? (.inl rfl) h d)
    next => cases h
  next => cases h

theorem passesTo_of_string? {cs rest : List Char} (h : string? cs = some rest) (d : Nat) :
    PassesTo (inside .plain d) d cs rest := by
  rw [string?.eq_def] at h
  split at h
  · exact .cons (passesTo_of_quoted? h d)
  · exact .cons (passesTo_of_raw? (fun _ _ ↦ rfl) h)
  · exact .cons (.cons (passesTo_of_quoted? h d))
  · exact .cons (.cons (passesTo_of_raw? (fun _ _ ↦ rfl) h))
  · exact .cons (.cons (passesTo_of_quoted? h d))
  · exact .cons (.cons (passesTo_of_raw? (fun _ _ ↦ rfl) h))
  · cases h

/-! ### Characters -/

/-- What the machine knows at a place in the escape of a character. -/
def escapeMode : QuoteState → Mode
  | .escape => .charEscape
  | _ => .char

/-- The escape of a character, and places in it. -/
def IsEscape : QuoteState → Prop
  | .escape | .firstHex | .secondHex _ | .brace | .number _ _ => True
  | .plain | .afterReturn | .continued | .continuedReturn | .closed => False

/-- The machine follows the reader through the escape of a character. -/
theorem escapeMode_step {f : Flavour} {s s' : QuoteState} {c : Char} (hs : IsEscape s)
    (h : s.step f c = some s') : (escapeMode s).step c = .char ∧
      (IsEscape s' ∧ s' ≠ .escape ∨ s' = .plain ∨ s' = .continued ∨ s' = .continuedReturn) := by
  have hhex : isHex c = true → IsInert c := isInert_of_isHex
  have hoctal : '0' ≤ c ∧ c ≤ '7' → IsInert c := isInert_of_octal
  cases s with
  | escape => grind [QuoteState.step, escapeMode, Mode.step, IsEscape]
  | firstHex => grind [QuoteState.step, escapeMode, Mode.step, IsInert, IsEscape]
  | secondHex first => grind [QuoteState.step, escapeMode, Mode.step, IsInert, IsEscape]
  | brace => grind [QuoteState.step, escapeMode, Mode.step, singleQuote, IsEscape]
  | number digits value =>
    grind [QuoteState.step, escapeMode, Mode.step, singleQuote, IsInert, IsEscape]
  | _ => exact hs.elim

/-- The machine is in a character before its closing quote. -/
theorem run_of_escape? {f : Flavour} {s : QuoteState} {cs rest : List Char} (hs : IsEscape s)
    (h : escape? f s cs = some rest) (d : Nat) :
    ∃ l, cs = l ++ rest ∧ run (inside (escapeMode s) d) l = inside .char d := by
  induction cs generalizing s with
  | nil => cases h
  | cons c cs ih =>
    have hmode : (escapeMode s).isOutside = false := by
      cases s <;> rfl
    rw [escape?] at h
    cases hstep : s.step f c with
    | none =>
      rw [hstep] at h
      cases h
    | some s' =>
      obtain ⟨hchar, hs'⟩ := escapeMode_step hs hstep
      rw [hstep] at h
      obtain ⟨hs', hne⟩ | rfl | rfl | rfl := hs'
      · have hmore : escape? f s' cs = some rest := by
          cases s' <;> first | exact h | exact hs'.elim
        obtain ⟨l, rfl, hl⟩ := ih hs' hmore
        refine ⟨c :: l, rfl, ?_⟩
        have hmode' : escapeMode s' = .char := by
          cases s' <;> first | rfl | exact absurd rfl hne
        rw [hmode'] at hl
        rw [run_cons, step_of_not_isOutside hmode, hchar, hl]
      · obtain rfl := Option.some.inj h
        exact ⟨[c], rfl, by rw [run_cons, step_of_not_isOutside hmode, hchar, run_nil]⟩
      · cases h
      · cases h

/-- A quote closes a character. -/
theorem passesTo_of_closeChar? {m : Mode} {d : Nat} {cs rest : List Char}
    (hm : (inside m d).step singleQuote = inside .plain d) (h : closeChar? cs = some rest) :
    PassesTo (inside m d) d cs rest := by
  cases cs with
  | nil => cases h
  | cons c cs =>
    rw [closeChar?] at h
    split at h
    next hc =>
      obtain rfl := Option.some.inj h
      obtain rfl := eq_of_beq hc
      exact .cons (hm ▸ .of_plainTo (isOutside_plain d) (plainTo_suffix cs))
    next => cases h

theorem passesTo_of_escape? {f : Flavour} {cs rest : List Char}
    (h : (escape? f .escape cs).bind closeChar? = some rest) (d : Nat) :
    PassesTo (inside .charEscape d) d cs rest := by
  obtain ⟨after, hescape, hclose⟩ := Option.bind_eq_some_iff.mp h
  have hstart : IsEscape .escape := trivial
  obtain ⟨l, rfl, hl⟩ := run_of_escape? hstart hescape d
  have hchar : (inside .char d).step singleQuote = inside .plain d := rfl
  exact .after (hl ▸ passesTo_of_closeChar? hchar hclose)

theorem passesTo_of_char? {cs rest : List Char} (h : char? cs = some rest) (d : Nat) :
    PassesTo (inside .plain d) d cs rest := by
  have hquoted (c : Char) : (inside (.quoted (c = 'r')) d).step singleQuote = inside .plain d := by
    simp [Scan.step, Mode.step, singleQuote]
  have hquote {c : Char} (hc : c ≠ '\\') :
      (inside .quote d).step c = inside (.quoted (c = 'r')) d := by
    simp [Scan.step, Mode.isOutside, Mode.step, hc]
  rw [char?.eq_def] at h
  split at h
  · exact .cons (.cons (passesTo_of_escape? h d))
  next c cs hescape =>
    have hc : c ≠ '\\' := hescape
    exact .cons (.cons (hquote hc ▸ passesTo_of_closeChar? (hquoted c) h))
  · exact .cons (.cons (.cons (passesTo_of_escape? h d)))
  next c cs hescape =>
    have hc : c ≠ '\\' := hescape
    split at h
    · exact .cons (.cons (.cons (hquote hc ▸ passesTo_of_closeChar? (hquoted c) h)))
    · cases h
  · cases h

/-! ### Numbers -/

/-- A character that the digits of a number consist of. -/
theorem isPlain_of_number {c : Char} (h : isHex c = true ∨ c ∈ ['_', '+', '-']) : IsPlain c := by
  refine ⟨?_, ?_, ?_, ?_⟩ <;> rintro rfl <;> revert h <;> decide

theorem isPlain_of_isDigit {c : Char} (h : c.isDigit = true) : IsPlain c :=
  isPlain_of_number (.inl (by rw [isHex, h, Bool.true_or, Bool.true_or]))

theorem isPlain_of_isDigitOrGap {c : Char} (h : isDigitOrGap c = true) : IsPlain c := by
  rw [isDigitOrGap, Bool.or_eq_true, beq_iff_eq] at h
  exact h.elim isPlain_of_isDigit fun h ↦ isPlain_of_number (.inr (by simp [h]))

theorem plainTo_of_exponent? {sign digits : Bool} {cs rest : List Char}
    (h : exponent? sign digits cs = some rest) : PlainTo cs rest := by
  fun_induction exponent? sign digits cs with
  | case1 | case3 | case8 =>
    obtain rfl := Option.some.inj h
    exact .refl _
  | case5 sign digits c cs hsign _ _ ih =>
    refine .cons (isPlain_of_number (.inr ?_)) (ih h)
    rw [Bool.or_eq_true, beq_iff_eq, beq_iff_eq] at hsign
    simp [hsign]
  | case6 sign digits c cs _ hdigit ih => exact .cons (isPlain_of_isDigit hdigit) (ih h)
  | case7 sign digits c cs _ _ hgap ih =>
    exact .cons (isPlain_of_number (.inr (by simp [eq_of_beq hgap]))) (ih h)
  | _ => cases h

theorem plainTo_of_baseDigits? {base : Nat} {empty : Bool} {cs rest : List Char}
    (h : baseDigits? base empty cs = some rest) : PlainTo cs rest := by
  fun_induction baseDigits? base empty cs with
  | case2 | case9 =>
    obtain rfl := Option.some.inj h
    exact .refl _
  | case4 empty c cs hdigit _ ih => exact .cons (isPlain_of_isDigit hdigit) (ih h)
  | case5 empty c cs _ hhex ih =>
    exact .cons (isPlain_of_number (.inl (Bool.and_eq_true_iff.mp hhex).1)) (ih h)
  | case7 empty c cs _ _ hgap _ ih =>
    exact .cons (isPlain_of_number (.inr (by simp [eq_of_beq hgap]))) (ih h)
  | _ => cases h

theorem plainTo_of_floatDigits? {cs rest : List Char} (h : floatDigits? cs = some rest) :
    PlainTo cs rest := by
  have hgaps (cs : List Char) : PlainTo cs (cs.dropWhile isDigitOrGap) :=
    .dropWhile (fun _ ↦ isPlain_of_isDigitOrGap) cs
  have hletter {c : Char} (hc : (c == 'e' || c == 'E') = true) : IsPlain c := by
    rw [Bool.or_eq_true, beq_iff_eq, beq_iff_eq] at hc
    obtain rfl | rfl := hc <;> decide
  rw [floatDigits?.eq_def] at h
  split at h
  next d ds =>
    split at h
    next => cases h
    next =>
      have hwhole := hgaps (d :: ds)
      split at h
      next after hpoint =>
        rw [hpoint] at hwhole
        have hfraction : PlainTo (d :: ds) (after.dropWhile isDigitOrGap) :=
          hwhole.trans (.cons (by decide) (hgaps after))
        split at h
        next => cases h
        next =>
          dsimp only at h
          split at h
          next c more hmore =>
            rw [hmore] at hfraction
            split at h
            next hc =>
              obtain rfl := Option.some.inj h
              refine hfraction.trans ?_
              cases hexponent : exponent? false false more with
              | none => exact hmore ▸ .refl _
              | some rest => exact .cons (hletter hc) (plainTo_of_exponent? hexponent)
            next =>
              obtain rfl := Option.some.inj h
              exact hmore ▸ hfraction
          next hnil =>
            obtain rfl := Option.some.inj h
            exact hnil ▸ hfraction
      next c more _ hmore =>
        split at h
        next hc =>
          rw [hmore] at hwhole
          exact hwhole.trans (.cons (hletter hc) (plainTo_of_exponent? h))
        next => cases h
      next => cases h
  next => cases h

theorem plainTo_of_wholeDigits? {cs rest : List Char} (h : wholeDigits? cs = some rest) :
    PlainTo cs rest := by
  rw [wholeDigits?.eq_def] at h
  split at h
  · exact .cons (by decide) (.cons (by decide) (plainTo_of_baseDigits? h))
  · exact .cons (by decide) (.cons (by decide) (plainTo_of_baseDigits? h))
  · exact .cons (by decide) (.cons (by decide) (plainTo_of_baseDigits? h))
  · exact plainTo_of_baseDigits? h

theorem plainTo_of_endNumber? {cs rest : List Char} (h : endNumber? cs = some rest) :
    PlainTo cs rest := by
  rw [endNumber?] at h
  split at h <;> cases h
  exact plainTo_suffix cs

/-- **The machine passes over a literal.** -/
theorem passesTo_of_literal? {cs rest : List Char} (h : literal? cs = some rest) (d : Nat) :
    PassesTo (inside .plain d) d cs rest := by
  have hnumber {digits? : List Char → Option (List Char)}
      (hdigits : ∀ {cs rest : List Char}, digits? cs = some rest → PlainTo cs rest)
      (h : (digits? cs).bind endNumber? = some rest) : PassesTo (inside .plain d) d cs rest := by
    obtain ⟨after, hafter, hend⟩ := Option.bind_eq_some_iff.mp h
    exact .of_plainTo (isOutside_plain d) ((hdigits hafter).trans (plainTo_of_endNumber? hend))
  simp only [literal?, Option.orElse_eq_or, Option.or_eq_some_iff] at h
  obtain h | ⟨-, h | ⟨-, h | ⟨-, h⟩⟩⟩ := h
  · exact passesTo_of_string? h d
  · exact passesTo_of_char? h d
  · exact hnumber plainTo_of_floatDigits? h
  · exact hnumber plainTo_of_wholeDigits? h

/-! ### Literals after a quote -/

/-- A literal that is taken from a text only because a quote before it is neither a character nor a
lifetime. -/
def FollowsQuote (cs : List Char) : Prop :=
  literalStarts.any (·.isPrefixOf cs) = true ∧ literal? (singleQuote :: cs) = none

theorem FollowsQuote.exists_cons {cs : List Char} (h : FollowsQuote cs) :
    ∃ c rest, cs = c :: rest ∧ (c = 'r' ∨ c = 'b' ∨ c = 'c') := by
  obtain ⟨l, hl, hprefix⟩ := List.any_eq_true.mp h.1
  have hstarts : ∀ l ∈ literalStarts, l.head?.any (['r', 'b', 'c'].contains ·) = true := by decide
  obtain ⟨c, hc, hmem⟩ := (Option.any_eq_true _ _).mp (hstarts l hl)
  obtain ⟨tail, rfl⟩ := List.isPrefixOf_iff_prefix.mp hprefix
  obtain ⟨l, rfl⟩ := List.head?_eq_some_iff.mp hc
  exact ⟨c, l ++ tail, rfl, by simpa using hmem⟩

/-- The literal is a text: no number begins with the letter that it begins with, and a byte after
the quote would have been read as a character. -/
theorem FollowsQuote.string?_eq_some {cs rest : List Char} (h : FollowsQuote cs)
    (hliteral : literal? cs = some rest) : string? cs = some rest := by
  obtain ⟨c, tail, rfl, hc⟩ := h.exists_cons
  obtain ⟨hstart, hne⟩ : isIdentifierStart c = true ∧ c ≠ singleQuote := by
    rcases hc with rfl | rfl | rfl <;> decide
  obtain ⟨hfloat, hwhole⟩ := number?_eq_none tail hstart
  simp only [literal?, Option.orElse_eq_or, Option.or_eq_some_iff, hfloat, hwhole,
    Option.bind_none, reduceCtorEq, and_false, or_false] at hliteral
  obtain hstring | ⟨-, hchar⟩ := hliteral
  · exact hstring
  · have hbyte : ∃ tail', c :: tail = 'b' :: singleQuote :: tail' := by
      rw [char?.eq_def] at hchar
      split at hchar
      next heq => exact absurd (List.cons.inj heq).1 hne
      next heq => exact absurd (List.cons.inj heq).1 hne
      next heq => exact ⟨_, heq⟩
      next heq => exact ⟨_, heq⟩
      next => cases hchar
    obtain ⟨tail', heq⟩ := hbyte
    have hnone := h.2
    rw [heq, literal?] at hnone
    simp [string?, char?, closeChar?, singleQuote] at hnone

/-- **The machine passes over a literal after a quote.** -/
theorem FollowsQuote.passesTo {cs rest : List Char} (h : FollowsQuote cs)
    (hliteral : literal? cs = some rest) (d : Nat) : PassesTo (inside .quote d) d cs rest := by
  obtain ⟨c, tail, hcs, hc⟩ := h.exists_cons
  have hstring := h.string?_eq_some hliteral
  rw [string?.eq_def] at hstring
  split at hstring
  · cases hcs
    exact absurd hc (by decide)
  · refine .cons (passesTo_of_raw? ?_ hstring)
    simp [Scan.step, Mode.step, Mode.isOutside, doubleQuote, singleQuote]
  · exact .cons (.cons (passesTo_of_quoted? hstring d))
  · exact .cons (.cons (passesTo_of_raw? (fun _ _ ↦ rfl) hstring))
  · exact .cons (.cons (passesTo_of_quoted? hstring d))
  · exact .cons (.cons (passesTo_of_raw? (fun _ _ ↦ rfl) hstring))
  · cases hstring

/-! ### Literals of generated code -/

theorem exists_of_mem_toDigits {n : Nat} {c : Char} (hc : c ∈ Nat.toDigits 16 n) :
    ∃ m : Nat, c = m.digitChar := by
  induction n using Nat.strongRecOn with
  | ind n ih =>
    by_cases hn : n < 16
    · rw [Nat.toDigits_of_lt_base hn, List.mem_singleton] at hc
      exact ⟨n, hc⟩
    · have hsplit := Nat.toDigits_append_toDigits (b := 16) (n := n / 16) (d := n % 16)
        (by omega) (by omega) (by omega)
      rw [Nat.div_add_mod] at hsplit
      rw [← hsplit, List.mem_append] at hc
      exact hc.elim (ih (n / 16) (by omega)) (ih (n % 16) (by omega))

/-- The machine stays in a text. -/
theorem run_text {d : Nat} {cs : List Char} (hcs : ∀ c ∈ cs, c ≠ doubleQuote ∧ c ≠ '\\') :
    run (inside .text d) cs = inside .text d := by
  induction cs with
  | nil => rfl
  | cons c cs ih =>
    obtain ⟨⟨hquote, hescape⟩, hcs⟩ := List.forall_mem_cons.mp hcs
    rw [run_cons, step_of_not_isOutside rfl, text_step hquote hescape, ih hcs]

theorem run_escape (c : Char) (d : Nat) :
    run (inside .text d) (Text.escape doubleQuote c) = inside .text d := by
  have hbackslash (c : Char) : run (inside .text d) ['\\', c] = inside .text d := rfl
  rw [Text.escape]
  by_cases hc : (c == '\\' || c == doubleQuote) = true
  · rw [if_pos hc]
    split_ifs <;> exact hbackslash _
  · rw [if_neg hc]
    have hplain : c ≠ doubleQuote ∧ c ≠ '\\' := by
      rw [Bool.or_eq_true, beq_iff_eq, beq_iff_eq, not_or] at hc
      exact hc.symm
    split_ifs
    iterate 4 exact hbackslash _
    · have hdigits : ∀ e ∈ Text.hexDigits c.toNat ++ ['\x7d'], e ≠ doubleQuote ∧ e ≠ '\\' := by
        refine List.forall_mem_append.mpr
          ⟨fun e he ↦ ?_, List.forall_mem_singleton.mpr (by decide)⟩
        obtain ⟨m, rfl⟩ := exists_of_mem_toDigits he
        exact ⟨Nat.digitChar_ne _ rfl, Nat.digitChar_ne _ rfl⟩
      rw [Text.numbered, List.append_assoc, run_append]
      exact run_text hdigits
    · exact run_text (List.forall_mem_singleton.mpr hplain)

theorem run_literalBody (cs : List Char) (d : Nat) :
    run (inside .text d) (Text.literalBody cs) = inside .text d := by
  induction cs with
  | nil => rfl
  | cons c cs ih =>
    rw [Text.literalBody, run_append]
    split
    · exact ih
    · rw [run_escape, ih]

/-- The machine passes over a literal of generated code. -/
theorem isOutside_quoteLiteral (s : String) (d : Nat) :
    IsOutside d (run (inside .plain d) (Text.quoteLiteral s).toList) := by
  have hstart : (inside .plain d).step doubleQuote = inside .text d := rfl
  rw [Text.quoteLiteral, String.toList_ofList, List.cons_append, run_cons, hstart, run_append,
    run_literalBody]
  exact isOutside_plain d

end Scan

end TypedIds
