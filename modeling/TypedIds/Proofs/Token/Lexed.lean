import TypedIds.Proofs.Token.Scan

/-!
# Trees as they are cut from texts

What is known of the tokens that a text is cut into, as far as it matters when they are written out
again: words begin like identifiers and hold neither quotation marks nor parentheses, and literals
are passed over by the machine that counts parentheses.  A quote that is a token of its own stands
only before a literal.

**`Tree.lexed_of_read`**: the trees of a text are of this kind.
-/

set_option autoImplicit false

namespace TypedIds

open Lexer
open Text (singleQuote)

/-- A word without parentheses and quotation marks. -/
def IsPlainWord (w : String) : Prop := ∀ c ∈ w.toList, Scan.IsPlain c

instance (w : String) : Decidable (IsPlainWord w) := List.decidableBAll Scan.IsPlain w.toList

/-- A word as it is cut from a text. -/
def IsWord (w : String) : Prop := StartsName w ∧ IsPlainWord w

instance (w : String) : Decidable (IsWord w) := inferInstanceAs (Decidable (_ ∧ _))

/-- A text that the machine passes over. -/
def IsPassed (l : String) : Prop := ∀ d, Scan.IsOutside d (Scan.run (.inside .plain d) l.toList)

/-- A text that the machine passes over after a quote. -/
def IsPassedQuoted (l : String) : Prop :=
  ∀ d, Scan.IsOutside d (Scan.run (.inside .quote d) l.toList)

/-- A character that does not mean more than itself to the machine. -/
def IsMark (c : Char) : Prop := Scan.IsPlain c ∧ c ≠ 'r'

instance (c : Char) : Decidable (IsMark c) := inferInstanceAs (Decidable (_ ∧ _))

theorem isMark_of_mem {c : Char} (h : c ∈ marks) (hc : c ≠ singleQuote) : IsMark c := by
  have hmarks : marks.all (fun c ↦ decide (c ≠ singleQuote → IsMark c)) = true := by decide
  exact of_decide_eq_true (List.all_eq_true.mp hmarks c h) hc

/-- A text that consists of marks. -/
def IsOperator (op : String) : Prop := ∀ c ∈ op.toList, IsMark c

instance (op : String) : Decidable (IsOperator op) := List.decidableBAll IsMark op.toList

/-- Trees as they are cut from texts. -/
inductive Tree.Lexed : List Tree → Prop
  | nil : Lexed []
  | word {w : String} {s : Span} {ts : List Tree} (hstart : StartsName w) (hw : IsPlainWord w)
    (h : Lexed ts) : Lexed (.word w s :: ts)
  | lifetime {n : String} {q s : Span} {ts : List Tree} (hstart : StartsName n)
    (hn : IsPlainWord n) (h : Lexed ts) : Lexed (.lifetime n q s :: ts)
  | literal {l : String} {s : Span} {ts : List Tree} (hl : IsPassed l) (h : Lexed ts) :
    Lexed (.literal l s :: ts)
  | mark {c : Char} {joined : Bool} {s : Span} {ts : List Tree} (hc : IsMark c) (h : Lexed ts) :
    Lexed (.mark c joined s :: ts)
  | group {d : Delimiter} {inner ts : List Tree} {s : Span} (hinner : Lexed inner)
    (h : Lexed ts) : Lexed (.group d inner s :: ts)
  | quote {l : String} {s s' : Span} {ts : List Tree} (hquoted : IsPassedQuoted l)
    (hl : IsPassed l) (h : Lexed ts) :
    Lexed (.mark singleQuote true s :: .literal l s' :: ts)

namespace Tree.Lexed

variable {ts us : List Tree}

theorem append (h : Lexed ts) (hus : Lexed us) : Lexed (ts ++ us) := by
  induction h with
  | nil => exact hus
  | word hstart hw _ ih => exact .word hstart hw ih
  | lifetime hstart hn _ ih => exact .lifetime hstart hn ih
  | literal hl _ ih => exact .literal hl ih
  | mark hc _ ih => exact .mark hc ih
  | group hinner _ _ ih => exact .group hinner ih
  | quote hquoted hl _ ih => exact .quote hquoted hl ih

theorem tail {t : Tree} (h : Lexed (t :: ts)) : Lexed ts := by
  cases h with
  | quote hquoted hl h => exact .literal hl h
  | _ => assumption

theorem of_suffix (h : Lexed ts) (hsuffix : us <:+ ts) : Lexed us := by
  induction ts with
  | nil =>
    rw [List.suffix_nil.mp hsuffix]
    exact .nil
  | cons t ts ih =>
    obtain rfl | hsuffix := List.suffix_cons_iff.mp hsuffix
    · exact h
    · exact ih h.tail hsuffix

/-- A tree that is no quote stands on its own. -/
theorem head {t : Tree} (h : Lexed (t :: ts)) (hne : ∀ s, t ≠ .mark singleQuote true s) :
    Lexed [t] := by
  cases h with
  | word hstart hw => exact .word hstart hw .nil
  | lifetime hstart hn => exact .lifetime hstart hn .nil
  | literal hl => exact .literal hl .nil
  | mark hc => exact .mark hc .nil
  | group hinner => exact .group hinner .nil
  | quote => exact absurd rfl (hne _)

/-- What comes before a tree that is no literal stands on its own. -/
theorem before {t : Tree} (h : Lexed (ts ++ t :: us)) (ht : ∀ l s, t ≠ .literal l s) :
    Lexed ts := by
  induction ts with
  | nil => exact .nil
  | cons u ts ih =>
    rw [List.cons_append] at h
    have hts := ih h.tail
    generalize hrest : ts ++ t :: us = rest at h
    cases h with
    | word hstart hw => exact .word hstart hw hts
    | lifetime hstart hn => exact .lifetime hstart hn hts
    | literal hl => exact .literal hl hts
    | mark hc => exact .mark hc hts
    | group hinner => exact .group hinner hts
    | quote hquoted hl =>
      -- the literal is not the tree that comes after, so it is one of those before
      cases ts with
      | nil => exact absurd (List.cons.inj hrest).1 (ht _ _)
      | cons u ts =>
        obtain ⟨rfl, -⟩ := List.cons.inj hrest
        exact .quote hquoted hl hts.tail

theorem isWord {w : String} {s : Span} (h : Lexed (.word w s :: ts)) : IsWord w := by
  cases h with
  | word hstart hw => exact ⟨hstart, hw⟩

theorem isWord_lifetime {n : String} {q s : Span} (h : Lexed (.lifetime n q s :: ts)) :
    IsWord n := by
  cases h with
  | lifetime hstart hn => exact ⟨hstart, hn⟩

theorem isPassed {l : String} {s : Span} (h : Lexed (.literal l s :: ts)) : IsPassed l := by
  cases h with
  | literal hl => exact hl

theorem inner {d : Delimiter} {inner : List Tree} {s : Span} (h : Lexed (.group d inner s :: ts)) :
    Lexed inner := by
  cases h with
  | group hinner => exact hinner

end Tree.Lexed

namespace Lexer

theorem consumed_append (l rest : List Char) : consumed (l ++ rest) rest = l := by
  rw [consumed, List.length_append, Nat.add_sub_cancel, List.take_left]

/-- What is consumed as plain characters is a plain word. -/
theorem isPlainWord_consumed {cs rest : List Char} (h : Scan.PlainTo cs rest) :
    IsPlainWord (String.ofList (consumed cs rest)) := by
  obtain ⟨l, rfl, hl⟩ := h
  rw [consumed_append, IsPlainWord, String.toList_ofList]
  exact hl

theorem plainTo_of_anyWord? {cs rest : List Char} (h : anyWord? cs = some rest) :
    Scan.PlainTo cs rest := by
  rw [anyWord?.eq_def] at h
  split at h
  next tail =>
    split at h
    next after hplain =>
      split at h
      · cases h
      · obtain rfl := Option.some.inj h
        exact .cons (by decide) (.cons (by decide) (Scan.plainTo_of_plainWord? hplain))
    next => cases h
  next => exact Scan.plainTo_of_plainWord? h

theorem isPassed_consumed {cs rest : List Char}
    (h : ∀ d, Scan.PassesTo (.inside .plain d) d cs rest) :
    IsPassed (String.ofList (consumed cs rest)) := by
  intro d
  obtain ⟨l, rfl, hl⟩ := h d
  rwa [consumed_append, String.toList_ofList]

theorem isPassedQuoted_consumed {cs rest : List Char}
    (h : ∀ d, Scan.PassesTo (.inside .quote d) d cs rest) :
    IsPassedQuoted (String.ofList (consumed cs rest)) := by
  intro d
  obtain ⟨l, rfl, hl⟩ := h d
  rwa [consumed_append, String.toList_ofList]

/-- The literal that stands for an error is passed over too: its parentheses are closed. -/
theorem passesTo_of_afterError? {cs rest : List Char} (h : afterError? cs = some rest) (d : Nat) :
    Scan.PassesTo (.inside .plain d) d cs rest := by
  rw [afterError?] at h
  split at h
  next hprefix =>
    obtain ⟨tail, rfl⟩ := List.isPrefixOf_iff_prefix.mp hprefix
    obtain rfl := Option.some.inj h
    rw [List.drop_left]
    exact ⟨errorLiteral, rfl, Scan.isOutside_plain d⟩
  next => cases h

theorem anyWord?_of_lifetime? {cs rest : List Char} (h : lifetime? cs = some rest) :
    anyWord? cs = some rest := by
  rw [lifetime?] at h
  split at h
  · cases h
  next after hword =>
    split at h
    · cases h
    · split at h
      · cases h
      · rw [hword, h]

/-- A leaf stands on its own, or it is a quote and a literal follows. -/
theorem lexed_of_leaf? {p : Place} {cs rest : List Char} {t : Tree}
    (h : leaf? p cs = some (t, rest)) :
    Tree.Lexed [t] ∨ (∃ s, t = .mark singleQuote true s) ∧ Scan.FollowsQuote rest := by
  rw [leaf?.eq_def] at h
  dsimp only at h
  split at h
  next after hafter =>
    cases h
    refine .inl (.literal (isPassed_consumed fun d ↦ ?_) .nil)
    obtain hliteral | ⟨-, herror⟩ := Option.or_eq_some_iff.mp hafter
    · exact Scan.passesTo_of_literal? hliteral d
    · exact passesTo_of_afterError? herror d
  next hnone =>
    split at h
    next c tail =>
      split at h
      next hmark =>
        split at h
        next hquote =>
          obtain rfl := eq_of_beq hquote
          obtain ⟨after, hafter, h⟩ := Option.map_eq_some_iff.mp h
          split at h
          next hstarts =>
            cases h
            exact .inr ⟨⟨_, rfl⟩, hstarts, (Option.or_eq_none_iff.mp hnone).1⟩
          next =>
            cases h
            have hword := anyWord?_of_lifetime? hafter
            exact .inl (.lifetime (startsName_of_anyWord? hword)
              (isPlainWord_consumed (plainTo_of_anyWord? hword)) .nil)
        next hquote =>
          cases h
          refine .inl (.mark (isMark_of_mem ?_ fun hc ↦ hquote (beq_iff_eq.mpr hc)) .nil)
          rw [startsMark.eq_def] at hmark
          split at hmark <;> simp_all
      next =>
        obtain ⟨after, hafter, h⟩ := Option.map_eq_some_iff.mp h
        cases h
        have hword := anyWord?_of_word? hafter
        exact .inl (.word (startsName_of_anyWord? hword)
          (isPlainWord_consumed (plainTo_of_anyWord? hword)) .nil)
    next => cases h

/-- After a quote that is a token of its own, a literal is read. -/
theorem lexed_of_followsQuote {p : Place} {cs rest : List Char} {t : Tree} {s : Span}
    (hquote : Scan.FollowsQuote cs) (h : leaf? p cs = some (t, rest)) :
    Tree.Lexed [.mark singleQuote true s, t] := by
  obtain ⟨c, tail, hcs, hc⟩ := hquote.exists_cons
  obtain ⟨hstart, hparen⟩ : Text.isIdentifierStart c = true ∧ c ≠ '(' := by
    rcases hc with rfl | rfl | rfl <;> decide
  have herror : afterError? cs = none := by
    have hprefix : ¬errorLiteral <+: cs := by
      rintro ⟨rest, heq⟩
      rw [hcs] at heq
      exact hparen (List.cons.inj heq).1.symm
    rw [afterError?, if_neg (by rwa [List.isPrefixOf_iff_prefix])]
  have hmark : startsMark cs = false := by
    rw [hcs]
    exact startsMark_eq_false hstart
  have hword : word? cs = none := by rw [word?, if_pos hquote.1]
  rw [leaf?.eq_def] at h
  dsimp only at h
  rw [herror, Option.or_none] at h
  split at h
  next after hafter =>
    cases h
    exact .quote (isPassedQuoted_consumed (hquote.passesTo hafter))
      (isPassed_consumed (Scan.passesTo_of_literal? hafter)) .nil
  next =>
    split at h
    next => simp [hmark, hword] at h
    next => cases h

theorem lexed_docTrees (text : List Char) (inner : Bool) (s : Span) :
    Tree.Lexed (docTrees text inner s) := by
  have hpassed : IsPassed (Text.quoteLiteral (String.ofList text)) :=
    Scan.isOutside_quoteLiteral _
  have hdoc : Tree.Lexed [.group .brackets
      [.word "doc" s, .mark '=' false s, .literal (Text.quoteLiteral (String.ofList text)) s] s] :=
    .group (.word (by decide) (by decide) (.mark (by decide) (.literal hpassed .nil))) .nil
  cases inner with
  | false => exact .mark (by decide) hdoc
  | true => exact .mark (by decide) (.mark (by decide) hdoc)

/-! ## All trees -/

/-- The trees that have been read, last first, and what they have to be followed by: only a literal
can follow a quote. -/
def LexedTo (done : List Tree) (cs : List Char) : Prop :=
  Tree.Lexed done.reverse ∨ ∃ s before, done = .mark singleQuote true s :: before ∧
    Tree.Lexed before.reverse ∧ Scan.FollowsQuote cs

theorem LexedTo.nil (cs : List Char) : LexedTo [] cs := .inl .nil

/-- Reading one more leaf. -/
theorem LexedTo.cons {done : List Tree} {p : Place} {cs rest : List Char} {t : Tree}
    (hdone : LexedTo done cs) (h : leaf? p cs = some (t, rest)) : LexedTo (t :: done) rest := by
  obtain hdone | ⟨s, before, rfl, hbefore, hquote⟩ := hdone
  · obtain ht | ⟨⟨s, rfl⟩, hquote⟩ := lexed_of_leaf? h
    · exact .inl (List.reverse_cons ▸ hdone.append ht)
    · exact .inr ⟨s, done, rfl, hdone, hquote⟩
  · refine .inl ?_
    rw [List.reverse_cons, List.reverse_cons, List.append_assoc]
    exact hbefore.append (lexed_of_followsQuote hquote h)

/-- What has been read so far is of this kind, and what is read from there on keeps it so. -/
theorem readFrom_lexed (n : Nat) {p : Place} {stack : List OpenGroup} {done ts : List Tree}
    {cs : List Char} (hdone : LexedTo done cs)
    (hstack : ∀ g ∈ stack, Tree.Lexed g.before.reverse)
    (h : readFrom n p stack done cs = .ok ts) : Tree.Lexed ts := by
  induction n generalizing p stack done cs with
  | zero => cases h
  | succ n ih =>
    obtain hdone | hpending := hdone
    · rw [readFrom.eq_def] at h
      dsimp only at h
      split at h
      -- a blank or a comment, and then a doc comment
      · exact ih (.inl hdone) hstack h
      split at h
      next text inner rest _ =>
        refine ih (.inl ?_) hstack h
        rw [List.reverse_append, List.reverse_reverse]
        exact hdone.append (lexed_docTrees text inner _)
      split at h
      -- the end
      · split at h
        · obtain rfl := Except.ok.inj h
          exact hdone
        · cases h
      next c rest =>
        split at h
        -- a group is opened, or closed
        · exact ih (.nil _) (List.forall_mem_cons.mpr ⟨hdone, hstack⟩) h
        · split at h
          next g outer =>
            obtain ⟨hbefore, houter⟩ := List.forall_mem_cons.mp hstack
            split at h
            · refine ih (.inl ?_) houter h
              exact List.reverse_cons ▸ hbefore.append (.group hdone .nil)
            · cases h
          next => cases h
        · split at h
          next t rest hleaf => exact ih (LexedTo.cons (.inl hdone) hleaf) hstack h
          next => cases h
    · -- nothing but a leaf begins with a letter
      obtain ⟨s, before, rfl, hbefore, hquote⟩ := hpending
      obtain ⟨c, tail, rfl, hc⟩ := hquote.exists_cons
      have hletter : Text.isSeparating c = false := by
        rcases hc with rfl | rfl | rfl <;> decide +kernel
      rw [readFrom_cons hletter] at h
      split at h
      next t rest hleaf =>
        exact ih (LexedTo.cons (.inr ⟨s, before, rfl, hbefore, hquote⟩) hleaf) hstack h
      next => cases h

end Lexer

/-- **The trees of a text are as trees are cut from texts.** -/
theorem Tree.lexed_of_read {text : String} {ts : List Tree} (h : Tree.read text = .ok ts) :
    Tree.Lexed ts :=
  readFrom_lexed _ (.nil _) (fun _ hg ↦ absurd hg List.not_mem_nil) h

end TypedIds
