import TypedIds.Grammar.Item
import TypedIds.Grammar.Expression
import TypedIds.Proofs.Grammar.Begins
import TypedIds.Proofs.Token.Lexed

/-!
# Closed code

Code is closed if no parenthesis and no quotation that begins in it goes on after it, and none that
began before ends in it.  What is said is about the text that the code is shown as: the machine that
counts parentheses comes back to where it was.

Closed code put together is closed.  This is all that has to be known of the many pieces that the
code of a type is made of.
-/

set_option autoImplicit false

namespace TypedIds

open Lexer (marks)
open Text (singleQuote doubleQuote)

/-! ## Showing pieces of code -/

namespace Code

/-- Whether the next token touches what has been written, given whether it touches what came
before. -/
def touches : (touching : Bool) → Code → Bool
  | touching, [] => touching
  | _, .mark _ joined :: c => touches joined c
  | _, .opening _ :: c => touches true c
  | _, _ :: c => touches false c

theorem showAfter_append (touching : Bool) (a b : Code) :
    showAfter touching (a ++ b) = showAfter touching a ++ showAfter (touches touching a) b := by
  induction a generalizing touching with
  | nil => simp [showAfter, touches]
  | cons t a ih =>
    cases t with
    | opening d => cases d <;> simp [showAfter, touches, ih, String.append_assoc]
    | closing d => cases d <;> simp [showAfter, touches, ih, String.append_assoc]
    | _ => simp [showAfter, touches, ih, String.append_assoc]

theorem touches_append (touching : Bool) (a b : Code) :
    touches touching (a ++ b) = touches (touches touching a) b := by
  induction a generalizing touching with
  | nil => rfl
  | cons t a ih => cases t <;> exact ih _

/-- The machine before a token: outside of quotations, and it has just been told so if the token
touches what was written before. -/
def IsReady (touching : Bool) (depth : Nat) (s : Scan) : Prop :=
  s.IsOutside depth ∧ (touching = true → s = .inside .plain depth)

/-- Code after which the machine is where it was before. -/
structure Closed (c : Code) : Prop where
  run : ∀ touching d s, IsReady touching d s →
    IsReady (touches touching c) d (s.run (showAfter touching c).toList)

theorem isReady_plain (touching : Bool) (d : Nat) : IsReady touching d (.inside .plain d) :=
  ⟨Scan.isOutside_plain d, fun _ ↦ rfl⟩

/-- A blank is written before a token that does not touch the one before it. -/
theorem IsReady.run_blank {touching : Bool} {d : Nat} {s : Scan} (h : IsReady touching d s) :
    s.run (if touching then "" else " ").toList = .inside .plain d := by
  cases touching with
  | true => exact h.2 rfl
  | false =>
    obtain ⟨⟨m, hm, rfl⟩, -⟩ := h
    cases m with
    | quoted isR => cases isR <;> rfl
    | plain | letterR => rfl
    | _ => cases hm

namespace Closed

variable {a b c : Code}

theorem nil : Closed [] := ⟨fun _ _ _ h ↦ h⟩

theorem append (ha : Closed a) (hb : Closed b) : Closed (a ++ b) := by
  refine ⟨fun touching d s hs ↦ ?_⟩
  rw [showAfter_append, touches_append, String.toList_append, Scan.run_append]
  exact hb.run _ _ _ (ha.run _ _ _ hs)

/-! ### Tokens -/

/-- A token that the machine passes over, and that nothing touches. -/
theorem of_passed {t : Token} (h : IsPassed t.text) (htouches : ∀ b, touches b [t] = false)
    (hshow : ∀ b, showAfter b [t] = (if b then "" else " ") ++ t.text) : Closed [t] := by
  refine ⟨fun touching d s hs ↦ ?_⟩
  rw [hshow, htouches, String.toList_append, Scan.run_append, hs.run_blank]
  exact ⟨h d, nofun⟩

theorem literalToken {l : String} (h : IsPassed l) : Closed [.literal l] :=
  of_passed h (fun _ ↦ rfl) fun _ ↦ by simp [showAfter]

theorem wordToken {w : String} (h : IsPlainWord w) : Closed [.word w] :=
  of_passed (fun d ↦ (Scan.isOutside_plain d).run h) (fun _ ↦ rfl) fun _ ↦ by simp [showAfter]

theorem lifetimeToken {n : String} (hstart : StartsName n) (h : IsPlainWord n) :
    Closed [.lifetime n] := by
  refine of_passed (fun d ↦ ?_) (fun _ ↦ rfl) fun _ ↦ by simp [showAfter]
  obtain ⟨c, hc, hstart⟩ := (Option.any_eq_true _ _).mp hstart
  obtain ⟨rest, hn⟩ := List.head?_eq_some_iff.mp hc
  have hbackslash : c ≠ '\\' := by
    rintro rfl
    exact absurd hstart (by decide)
  have htext : (Token.lifetime n).text.toList = singleQuote :: c :: rest := by
    rw [Token.text, String.toList_append, hn]
    rfl
  have hquote : ((Scan.inside .plain d).step singleQuote).step c =
      .inside (.quoted (c = 'r')) d := by
    have hstep : (Scan.inside .plain d).step singleQuote = .inside .quote d := rfl
    rw [hstep, Scan.step_of_not_isOutside rfl, Scan.Mode.step, if_neg hbackslash]
  have hrest : ∀ e ∈ rest, Scan.IsPlain e := fun e he ↦ h e (hn ▸ List.mem_cons_of_mem c he)
  rw [htext, Scan.run_cons, Scan.run_cons, hquote]
  exact Scan.IsOutside.run ⟨_, rfl, rfl⟩ hrest

theorem markToken {m : Char} (h : IsMark m) (joined : Bool) : Closed [.mark m joined] := by
  refine ⟨fun touching d s hs ↦ ?_⟩
  obtain ⟨⟨hopen, hclose, hsingle, hdouble⟩, hr⟩ := h
  have hstep : (Scan.inside .plain d).step m = .inside .plain d := by
    simp [Scan.step, hopen, hclose, Scan.Mode.step, Scan.Mode.plainStep, hsingle, hdouble, hr]
  have hshow : showAfter touching [.mark m joined] =
      (if touching then "" else " ") ++ String.singleton m := by simp [showAfter, Token.text]
  rw [hshow, String.toList_append, Scan.run_append, hs.run_blank]
  simp [hstep, isReady_plain]

/-- A quote and the literal that follows it. -/
theorem quoteLiteral {l : String} (h : IsPassedQuoted l) :
    Closed [.mark singleQuote true, .literal l] := by
  refine ⟨fun touching d s hs ↦ ?_⟩
  have hshow : showAfter touching [.mark singleQuote true, .literal l] =
      (if touching then "" else " ") ++ (String.singleton singleQuote ++ l) := by
    simp only [showAfter, Token.text, if_true, String.empty_append, String.append_empty,
      String.append_assoc]
  have hquote : (Scan.inside .plain d).step singleQuote = .inside .quote d := rfl
  rw [hshow, String.toList_append, Scan.run_append, hs.run_blank, String.toList_append,
    String.toList_singleton, List.singleton_append, Scan.run_cons, hquote]
  exact ⟨h d, fun htouches ↦ absurd htouches Bool.false_ne_true⟩

/-! ### Groups -/

/-- How many parentheses a delimiter opens. -/
def parensOf : Delimiter → Nat
  | .parens => 1
  | _ => 0

/-- What is written when a group begins. -/
def opened : Delimiter → String
  | .braces => "\x7b "
  | d => String.singleton d.opening

theorem showAfter_within (touching : Bool) (e : Delimiter) (c : Code) :
    showAfter touching (Code.within e c) =
      (if touching then "" else " ") ++ (opened e ++
        (showAfter true c ++ showAfter (touches true c) [.closing e])) := by
  rw [Code.within, List.cons_append]
  cases e <;> simp [opened, showAfter, showAfter_append, Token.text, Delimiter.opening,
    String.append_assoc]

theorem touches_within (touching : Bool) (e : Delimiter) (c : Code) :
    touches touching (Code.within e c) = false := by
  rw [Code.within, List.cons_append]
  cases e <;> simp [touches, touches_append]

theorem run_opened (e : Delimiter) (d : Nat) :
    (Scan.inside .plain d).run (opened e).toList = .inside .plain (d + parensOf e) := by
  cases e <;> rfl

theorem run_closing {touching : Bool} {e : Delimiter} {d : Nat} {s : Scan}
    (h : IsReady touching (d + parensOf e) s) :
    s.run (showAfter touching [.closing e]).toList = .inside .plain d := by
  by_cases he : e = .braces
  · subst he
    have hshow : showAfter touching [.closing .braces] =
        (if touching then "" else " ") ++ "\x7d" := by
      simp [showAfter, Token.text, Delimiter.closing]
    rw [hshow, String.toList_append, Scan.run_append, h.run_blank]
    rfl
  · have hshow : (showAfter touching [.closing e]).toList = [e.closing] := by
      cases e <;> simp_all [showAfter, Token.text]
    obtain ⟨⟨m, hm, rfl⟩, -⟩ := h
    rw [hshow]
    cases m with
    | quoted isR => cases e <;> cases isR <;> rfl
    | plain | letterR => cases e <;> rfl
    | _ => cases hm

theorem within (hc : Closed c) (e : Delimiter) : Closed (Code.within e c) := by
  refine ⟨fun touching d s hs ↦ ?_⟩
  have hinner := hc.run true (d + parensOf e) _ (isReady_plain true _)
  rw [touches_within, showAfter_within]
  simp only [String.toList_append, Scan.run_append, hs.run_blank, run_opened, run_closing hinner]
  exact isReady_plain false d

/-! ### Pieces

What a rule asks of a word or an operator that is written out is decided where the rule is used:
`Rat.den_nz._autoParam` is `by decide`.
-/

theorem word {w : String} (hc : Closed c) (h : autoParam (IsPlainWord w) Rat.den_nz._autoParam) :
    Closed (.word w :: c) :=
  append (wordToken h) hc

theorem mark {m : Char} {joined : Bool} (hc : Closed c)
    (h : autoParam (IsMark m) Rat.den_nz._autoParam) :
    Closed (.mark m joined :: c) :=
  append (markToken h joined) hc

theorem ofMarks {ms : List Char} (h : ∀ m ∈ ms, IsMark m) : Closed (Code.ofMarks ms) := by
  induction ms with
  | nil => exact nil
  | cons m ms ih =>
    obtain ⟨hm, hms⟩ := List.forall_mem_cons.mp h
    cases ms with
    | nil => exact .mark .nil hm
    | cons n ms => exact .mark (ih hms) hm

theorem op {s : String} (h : autoParam (IsOperator s) Rat.den_nz._autoParam) :
    Closed (Code.op s) :=
  ofMarks h

theorem ite {p : Prop} [Decidable p] (ha : Closed a) (hb : Closed b) :
    Closed (if p then a else b) := by
  split
  · exact ha
  · exact hb

theorem getD {o : Option Code} (h : ∀ c ∈ o, Closed c) : Closed (o.getD []) := by
  cases o with
  | none => exact nil
  | some c => exact h c rfl

theorem flatten {cs : List Code} (h : ∀ c ∈ cs, Closed c) : Closed cs.flatten := by
  induction cs with
  | nil => exact nil
  | cons c cs ih =>
    obtain ⟨hc, hcs⟩ := List.forall_mem_cons.mp h
    exact append hc (ih hcs)

theorem separate {between : Code} {cs : List Code} (hbetween : Closed between)
    (h : ∀ c ∈ cs, Closed c) : Closed (Code.separate between cs) := by
  rw [Code.separate]
  induction cs with
  | nil => exact nil
  | cons c cs ih =>
    obtain ⟨hc, hcs⟩ := List.forall_mem_cons.mp h
    cases cs with
    | nil => simpa using hc
    | cons d cs =>
      rw [List.intercalate_cons_cons, List.append_assoc]
      exact append hc (append hbetween (ih hcs))

theorem commas {cs : List Code} (h : ∀ c ∈ cs, Closed c) (trailing : Bool) :
    Closed (Code.commas cs trailing) :=
  append (separate (.mark .nil) h) (ite (.mark .nil) .nil)

theorem lifetimesFirst {pieces : List (Bool × Code)} (h : ∀ p ∈ pieces, Closed p.2)
    (trailing : Bool) : Closed (Code.lifetimesFirst pieces trailing) := by
  rw [Code.lifetimesFirst, List.partition_eq_filter_filter]
  refine commas (fun c hc ↦ ?_) _
  obtain ⟨p, hp, rfl⟩ := List.mem_map.mp hc
  obtain hp | hp := List.mem_append.mp hp <;> exact h p (List.mem_filter.mp hp).1

theorem angle (hc : Closed c) : Closed (Code.angle c) :=
  .mark (append hc (.mark .nil))

theorem whereCode {o : Option Code} (h : ∀ c ∈ o, Closed c) : Closed (TypedIds.whereCode o) := by
  match o with
  | none | some [] => exact nil
  | some (t :: ts) => exact .word (h _ rfl)

end Closed

/-- The code of trees as they are cut from texts is closed. -/
theorem Closed.of_lexed {ts : List Tree} (h : Tree.Lexed ts) : Closed (Tree.codeAll ts) := by
  induction h with
  | nil => exact nil
  | word _ hw _ ih => exact append (wordToken hw) ih
  | lifetime hstart hn _ ih => exact append (lifetimeToken hstart hn) ih
  | literal hl _ ih => exact append (literalToken hl) ih
  | mark hc _ ih => exact append (markToken hc _) ih
  | group _ _ hinner ih => exact append (within hinner _) ih
  | quote hquoted _ _ ih =>
    rw [Tree.codeAll, Tree.codeAll, ← List.append_assoc]
    exact append (quoteLiteral hquoted) ih

end Code

/-! ## Types -/

/-- The code of a bound is closed, and one that is no trait stands without parentheses. -/
structure Bound.Closed (b : Bound) : Prop where
  inner : b.inner.Closed
  noTrait : b.noTrait.isSome → b.parens = false ∧ b.inner.IsFree

theorem Bound.Closed.ofTrait {inner : Code} (h : inner.Closed) (parens : Bool) :
    Bound.Closed ⟨inner, parens, none⟩ :=
  ⟨h, nofun⟩

namespace Bound

theorem Closed.code {b : Bound} (h : b.Closed) : b.code.Closed := .ite (h.inner.within _) h.inner

theorem closed_codeAll {bs : List Bound} (h : ∀ b ∈ bs, b.Closed) (trailing : Bool) :
    (Bound.codeAll bs trailing).Closed := by
  rw [codeAll]
  refine .append (.separate (.mark .nil) fun c hc ↦ ?_) (.ite (.mark .nil) .nil)
  obtain ⟨b, hb, rfl⟩ := List.mem_map.mp hc
  exact (h b hb).code

end Bound

theorem Ty.closed_codeList {ts : List Ty} (h : ∀ t ∈ ts, t.code.Closed) (trailing : Bool) :
    (Ty.codeList ts trailing).Closed := by
  induction ts with
  | nil => exact .nil
  | cons t ts ih =>
    obtain ⟨ht, hts⟩ := List.forall_mem_cons.mp h
    cases ts with
    | nil => exact .append ht (.ite (.mark .nil) .nil)
    | cons u ts => exact .append ht (.mark (ih hts))

theorem Segment.closed_codeFront {ss : List Segment} (h : ∀ s ∈ ss, s.code.Closed) :
    (Segment.codeFront ss).Closed := by
  induction ss with
  | nil => exact .nil
  | cons s ss ih =>
    obtain ⟨hs, hss⟩ := List.forall_mem_cons.mp h
    exact .append (.append hs .op) (ih hss)

theorem Arg.closed_codes {as : List Arg} (h : ∀ a ∈ as, a.code.Closed) :
    ∀ p ∈ Arg.codes as, p.2.Closed := by
  induction as with
  | nil => exact nofun
  | cons a as ih =>
    obtain ⟨ha, has⟩ := List.forall_mem_cons.mp h
    cases a <;> exact List.forall_mem_cons.mpr ⟨ha, ih has⟩

theorem Args.closed_angle {as : List Arg} (h : ∀ a ∈ as, a.code.Closed)
    (turbofish trailing : Bool) : (Args.angle turbofish as trailing).code.Closed :=
  .append (.ite .op .nil) (.angle (.lifetimesFirst (Arg.closed_codes h) trailing))

end TypedIds
