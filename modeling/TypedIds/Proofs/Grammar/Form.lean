import TypedIds.Proofs.Grammar.Closed.Item
import TypedIds.Proofs.Grammar.Comparison
import TypedIds.Proofs.Grammar.Type

/-!
# What the text of a type tells

The text of a type tells whether it is a tuple, a reference or anything else.  A reference begins
with `&` and a tuple with `(`, and so does no other type but one in parentheses or a trait object
without `dyn`.  If the first bound of such a trait object is in parentheses, then it has a `?`
there, or another bound follows: the parentheses that the text begins with are closed before its
end.

* `Ty.Form.ofText` — the form that a text tells.
* `Ty.Telling` — all that is reached in a type has the form that its text tells.
* **`Ty.Discernible.of_telling`**: the parts of telling types that have the same text have the same
  form.
* `Ty.IsRead` — types that are read.
* **`Ty.IsRead.telling`**: these are telling.
-/

set_option autoImplicit false

namespace TypedIds

/-! ## The code of bounds -/

/-- What follows the first bound is a `+` with the others, if there are any. -/
theorem Bound.exists_codeAll_cons (b : Bound) (bs : List Bound) (trailing : Bool) :
    ∃ more, codeAll (b :: bs) trailing = b.code ++ more ∧ more.IsFree ∧
      (bs ≠ [] → ∃ rest, more = .mark '+' false :: rest) := by
  have htrailing : Code.IsFree (if trailing then [.mark '+' false] else []) := by
    split
    · exact .mark
    · exact .nil
  cases bs with
  | nil => exact ⟨_, by simp [codeAll, Code.separate], htrailing, fun h ↦ absurd rfl h⟩
  | cons b' bs =>
    refine ⟨.mark '+' false :: codeAll (b' :: bs) trailing, ?_, .mark, fun _ ↦ ⟨_, rfl⟩⟩
    simp [codeAll, Code.separate, List.intercalate_cons_cons]

namespace Ty

/-! ## Texts -/

/-- The form that a text tells.  That of a tuple is in parentheses as a whole, and there is no
relaxed bound in them. -/
def Form.ofText (s : String) : Form :=
  match s.toList with
  | '&' :: _ => .reference
  | '(' :: cs =>
    if cs.head? ≠ some '?' ∧ Scan.run (.inside .plain 0) cs = .closed then .tuple else .other
  | _ => .other

namespace Form

theorem ofText_of_free {c : Code} (h : c.IsFree) : ofText c.shown = .other := by
  have hfree := h.shown
  rw [ofText]
  split
  next hs => exact absurd rfl (hfree '&' (by simp [hs])).2.1
  next hs => exact absurd rfl (hfree '(' (by simp [hs])).1
  next => rfl

/-- What is shown of code in parentheses and of what follows it. -/
theorem toList_shown_within (c more : Code) :
    (Code.shown (Code.within .parens c ++ more)).toList =
      '(' :: (c.shown.toList ++ ')' :: (Code.showAfter false more).toList) := by
  have hclosing : ∀ touching, Code.showAfter touching [.closing .parens] = ")" := by
    intro touching
    simp [Code.showAfter, Token.text, Delimiter.closing]
  rw [Code.shown, Code.showAfter_append, Code.Closed.touches_within,
    Code.Closed.showAfter_within, hclosing]
  simp [Code.shown, Code.Closed.opened, Delimiter.opening]

/-- Closed code goes on to the parenthesis that closes it. -/
theorem run_shown {c : Code} (h : c.Closed) (cs : List Char) :
    Scan.run (.inside .plain 0) (c.shown.toList ++ ')' :: cs) = Scan.run .closed cs := by
  obtain ⟨⟨m, hm, hs⟩, -⟩ := h.run true 0 _ (Code.isReady_plain true 0)
  rw [Scan.run_append, Code.shown, hs, Scan.run_cons]
  simp [Scan.step, hm]

theorem ofText_within {c : Code} (h : c.Closed) (hbegins : c.Begins (· ≠ '?')) :
    ofText (Code.within .parens c).shown = .tuple := by
  have hrun := run_shown h []
  have hhead : (c.shown.toList ++ [')']).head? ≠ some '?' := by
    rw [List.head?_append]
    cases hc : c.shown.toList.head? with
    | none => simp
    | some m => simpa using hbegins.shown m hc
  have hshown : (Code.shown (Code.within .parens c)).toList = '(' :: (c.shown.toList ++ [')']) := by
    simpa [Code.showAfter] using toList_shown_within c []
  rw [ofText, hshown]
  exact if_pos ⟨hhead, hrun⟩

/-- What follows the parentheses that a text begins with is not a part of them. -/
theorem ofText_within_append {c more : Code} (h : c.Closed) {m : Char} {joined : Bool} :
    ofText (Code.shown (Code.within .parens c ++ .mark m joined :: more)) = .other := by
  have hmore : ∃ d ds, (Code.showAfter false (.mark m joined :: more)).toList = d :: ds :=
    ⟨' ', _, by simp [Code.showAfter]; rfl⟩
  obtain ⟨d, ds, hmore⟩ := hmore
  have hrun : Scan.run (.inside .plain 0) (c.shown.toList ++ ')' :: d :: ds) = .beyond := by
    rw [run_shown h, Scan.run_cons]
    exact Scan.run_beyond ds
  simp [ofText, toList_shown_within, hmore, hrun]

theorem ofText_relaxed (c more : Code) (joined : Bool) :
    ofText (Code.shown (Code.within .parens (.mark '?' joined :: c) ++ more)) = .other := by
  have hhead : ∃ cs, (Code.shown (.mark '?' joined :: c)).toList = '?' :: cs :=
    ⟨_, by simp [Code.shown, Code.showAfter, Token.text]; rfl⟩
  obtain ⟨cs, hhead⟩ := hhead
  simp [ofText, toList_shown_within, hhead]

end Form

/-! ## Types whose text tells their form -/

/-- All that is reached in a type has the form that its text tells, and it does not begin like a
relaxed bound. -/
structure Telling (t : Ty) : Prop where
  forms : ∀ u ∈ t.reached, u.form = Form.ofText u.text
  begins : t.code.Begins (· ≠ '?')

namespace Telling

theorem all {ts : List Ty} (h : ∀ t ∈ ts, t.Telling) :
    ∀ u ∈ reachedAll ts, u.form = Form.ofText u.text := by
  induction ts with
  | nil => exact nofun
  | cons t ts ih =>
    obtain ⟨ht, hts⟩ := List.forall_mem_cons.mp h
    intro u hu
    rw [reachedAll, List.mem_append] at hu
    exact hu.elim (ht.forms u) (ih hts u)

theorem begins_codeList {ts : List Ty} (h : ∀ t ∈ ts, t.Telling) (trailing : Bool) :
    (codeList ts trailing).Begins (· ≠ '?') := by
  have hcomma {c : Code} : Code.Begins (· ≠ '?') (.mark ',' false :: c) := .mark (by decide)
  match ts with
  | [] => exact .nil
  | [t] =>
    refine .append (h t (List.mem_singleton_self t)).begins ?_
    cases trailing with
    | false => exact .nil
    | true => exact hcomma
  | t :: u :: ts => exact .append (h t List.mem_cons_self).begins hcomma

theorem tuple {ts : List Ty} (trailing : Bool) (h : ∀ t ∈ ts, t.Telling)
    (hclosed : ∀ t ∈ ts, t.Closed) : (tuple ts trailing).Telling where
  forms := by
    refine List.forall_mem_cons.mpr ⟨?_, all h⟩
    have hcode := Ty.closed_codeList (fun t ht ↦ (hclosed t ht).code) trailing
    rw [text, Ty.code, Form.ofText_within hcode (begins_codeList h trailing), form]
  begins := by
    rw [Ty.code]
    exact .opening (by decide)

theorem paren {t : Ty} (h : t.Telling) : (Ty.paren t).Telling where
  forms := h.forms
  begins := by
    rw [Ty.code]
    exact .opening (by decide)

theorem reference {t : Ty} (lifetime : Option String) (isMut : Bool) (h : t.Telling) :
    (reference lifetime isMut t).Telling where
  forms := by
    refine List.forall_mem_cons.mpr ⟨?_, h.forms⟩
    obtain ⟨s, hs⟩ := Code.exists_shown_cons (.mark '&' false)
      ((lifetime.map Token.lifetime).toList ++ (if isMut then [.word "mut"] else []) ++ t.code)
    have htext : (Ty.reference lifetime isMut t).text = String.singleton '&' ++ s := hs
    simp [htext, Form.ofText, form]
  begins := by
    rw [Ty.code]
    exact .mark (by decide)

/-- A type without parts that are reached is telling if its text is that of none. -/
theorem ofText {t : Ty} (hreached : t.reached = [t]) (hform : t.form = .other)
    (h : Form.ofText t.text = .other) (hbegins : t.code.Begins (· ≠ '?')) : t.Telling where
  forms u hu := by
    rw [hreached, List.mem_singleton] at hu
    rw [hu, hform, h]
  begins := hbegins

/-- A type without parts that are reached is telling if it begins freely. -/
theorem single {t : Ty} (hreached : t.reached = [t]) (hform : t.form = .other)
    (h : t.code.IsFree) : t.Telling :=
  .ofText hreached hform (Form.ofText_of_free h) (h.weaken fun _ hm ↦ hm.2.2)

/-! ### Trait objects without `dyn` -/

variable {b : Bound} {bs : List Bound} {trailing : Bool}

/-- The first bound stands without parentheses. -/
theorem object (hparens : b.parens = false) (h : b.inner.IsFree) :
    (object false (b :: bs) trailing).Telling := by
  obtain ⟨more, hcode, hmore, -⟩ := Bound.exists_codeAll_cons b bs trailing
  refine .single rfl rfl ?_
  rw [Ty.code, hcode, Bound.code, hparens]
  exact h.append hmore

/-- The first bound is a relaxed one in parentheses. -/
theorem objectRelaxed (c : Code) (joined : Bool) :
    (Ty.object false (⟨.mark '?' joined :: c, true, none⟩ :: bs) trailing).Telling := by
  obtain ⟨more, hcode, -, -⟩ := Bound.exists_codeAll_cons ⟨.mark '?' joined :: c, true, none⟩ bs
    trailing
  have htype : (Ty.object false (⟨.mark '?' joined :: c, true, none⟩ :: bs) trailing).code =
      Code.within .parens (.mark '?' joined :: c) ++ more := by
    rw [Ty.code, hcode]
    rfl
  refine .ofText rfl rfl ?_ (htype ▸ .opening (by decide))
  rw [text, htype, Form.ofText_relaxed]

/-- The first bound is in parentheses, and others follow. -/
theorem objectParens (hparens : b.parens = true) (h : b.inner.Closed) (hbs : bs ≠ []) :
    (Ty.object false (b :: bs) trailing).Telling := by
  obtain ⟨more, hcode, -, hmore⟩ := Bound.exists_codeAll_cons b bs trailing
  obtain ⟨rest, rfl⟩ := hmore hbs
  have htype : (Ty.object false (b :: bs) trailing).code =
      Code.within .parens b.inner ++ .mark '+' false :: rest := by
    rw [Ty.code, hcode, Bound.code, hparens]
    rfl
  refine .ofText rfl rfl ?_ (htype ▸ .opening (by decide))
  rw [text, htype, Form.ofText_within_append h]

end Telling

/-- **The parts of telling types that have the same text have the same form.** -/
theorem Discernible.of_telling {a b : Ty} (ha : a.Telling) (hb : b.Telling) :
    Discernible a b := by
  intro t ht u hu htext
  rw [ha.forms t ht, hb.forms u hu, htext]

end Ty

/-! ## Types that are told by their first tokens -/

/-- A path that has been read begins with `::` or with a word. -/
theorem Path.Closed.isFree {p : Path} (h : p.Closed) : p.code.IsFree := by
  obtain ⟨rooted, front, ⟨last, args⟩⟩ := p
  have hlast : StartsName last := (h ⟨last, args⟩ (by simp [Path.segments])).name.1
  have hnames : Code.IsFree (Segment.codeFront front ++ (Segment.mk last args).code) := by
    cases front with
    | nil => exact .word hlast
    | cons s front =>
      obtain ⟨n, as⟩ := s
      exact .word (h ⟨n, as⟩ (by simp [Path.segments])).name.1
  rw [Path.code, Path.toTy, Ty.code, List.append_assoc]
  cases rooted with
  | false => exact hnames
  | true => exact .mark

namespace Grammar

open Reader
open TypedIds.Tree (Lexed)

/-- What has been taken begins with the word that has been read first. -/
theorem isFree_taken {α : Type} {w : String} {f : Unit → Reader α} (hw : StartsName w) :
    Yields (fun r ↦ (Tree.codeAll r.2).IsFree) (taking (keyword w >>= f)) := by
  intro c r next h
  obtain ⟨⟨a, after⟩, ha, h⟩ := exists_of_bind_eq_ok h
  obtain ⟨rfl, rfl⟩ := Prod.mk.inj (Except.ok.inj h)
  obtain ⟨⟨⟩, mid, hseen, -⟩ := bind_eq_ok ha
  rw [keyword, bind_apply (rfl : sees _ _ = _)] at hseen
  split at hseen
  next hword =>
    obtain ⟨s, more, hmore⟩ := Ahead.exists_of_word hword
    rw [hmore]
    cases (Tree.word w s :: more).length - after.trees.length with
    | zero => exact .nil
    | succ n => exact .word hw
  next => exact absurd hseen (Fails.want _ _ _)

theorem yields_keywordCode? {w : String} (hw : StartsName w) :
    Yields Code.IsFree (keywordCode? w) :=
  .andThen fun _ ↦ .ite (.pure (.word hw)) (.pure .nil)

theorem yields_abi : Yields Code.IsFree abi := by
  rw [abi_eq]
  refine .andThen fun _ ↦ .ite (.andThen fun _ ↦ .ite (.andThen fun ts ↦ ?_) ?_) (.pure .nil)
  · split
    · exact .andThen fun _ ↦ .pure .word
    · exact fun c a next h ↦ absurd h (Fails.want _ _ _)
  · exact .pure .word

theorem yields_macroRest : Yields (fun r ↦ r.2.IsFree) macroRest :=
  .andThen fun _ ↦ .andThen fun (_, _) ↦ .pure .mark

theorem yields_builtIn : Yields Code.IsFree builtIn := by
  have hstart : StartsName "builtin" := by decide
  exact .bind (isFree_taken hstart) fun _ h ↦ .pure h

namespace Nested

variable (r : Nested)

theorem yields_binder? : Yields (fun o ↦ ∀ c ∈ o, Code.IsFree c) r.binder? :=
  .andThen fun _ ↦ .ite (.andThen fun (_, _) ↦ .pure (forall_mem_some .word)) (.pure nofun)

theorem yields_functionPointer : Yields Code.IsFree r.functionPointer := by
  refine .bind (yields_keywordCode? (by decide)) fun a ha ↦ .bind yields_abi fun b hb ↦ ?_
  refine .andThen fun _ ↦ .andThen fun params ↦ .andThen fun _ ↦ ?_
  have hhead : Code.IsFree (a ++ b ++ .word "fn" :: Code.within .parens params) :=
    (ha.append hb).append .word
  refine .ite (.andThen fun t ↦ .pure ?_) (.pure hhead)
  rw [List.append_assoc]
  exact hhead.append .mark

theorem yields_objectOf (start : Span) (plus : Bool) :
    Yields Ty.Telling (r.objectOf true start plus) := by
  refine .andThen fun (bs, trailing) ↦ ?_
  dsimp only
  split
  · exact .fail _ _
  · exact .pure (.single rfl rfl .word)

theorem yields_dynType (plus : Bool) : Yields Ty.Telling (r.dynType plus) := by
  have hdyn : StartsName "dyn" := by decide
  have hobject : ∀ start, Yields (fun s ↦ s.2.Telling) (do
      keyword "dyn"
      let star ← operator? "*"
      return (star, ← r.objectOf true start plus)) :=
    fun start ↦ .andThen fun _ ↦ .andThen fun star ↦
      .bind (r.yields_objectOf start plus) fun _ ht ↦ .pure ht
  refine .andThen fun start ↦ .bind ((hobject start).taking.and (isFree_taken hdyn)) ?_
  rintro ⟨⟨star, t⟩, taken⟩ ⟨ht, htaken⟩
  cases star with
  | false => exact .pure ht
  | true => exact .pure (.single rfl rfl htaken)

theorem yields_implType (plus : Bool) : Yields Ty.Telling (r.implType plus) := by
  refine .andThen fun start ↦ .andThen fun _ ↦ .andThen fun (bs, trailing) ↦ ?_
  dsimp only
  split
  · exact .fail _ _
  · exact .pure (.single rfl rfl .word)

theorem yields_qualified (direct : Bool) :
    Yields (fun q ↦ Code.IsFree (q.1 ++ q.2.code)) (r.qualified direct) := by
  refine .andThen fun _ ↦ .andThen fun t ↦ .andThen fun isTrait ↦ ?_
  dsimp only
  refine .ite (.andThen fun _ ↦ .andThen fun as ↦ ?_) (.andThen fun as ↦ ?_)
  all_goals
    refine .andThen fun _ ↦ .andThen fun _ ↦ .andThen fun first ↦ .andThen fun more ↦ ?_
    exact .pure .mark

theorem yields_pointerType : Yields Ty.Telling r.pointerType := by
  refine .andThen fun _ ↦ .andThen fun _ ↦ ?_
  dsimp only
  refine .ite (.andThen fun _ ↦ .andThen fun word ↦ ?_) (.andThen fun word ↦ ?_)
  all_goals
    cases word
    exact .andThen fun t ↦ .pure (.single rfl rfl .mark)

theorem yields_bracketType : Yields Ty.Telling r.bracketType := by
  have hfree (c : Code) : Code.IsFree (.opening .brackets :: c) := .opening (by decide)
  refine .group (.andThen fun elem ↦ .andThen fun _ ↦ .ite ?_ ?_) _
  · exact .andThen fun length ↦ .pure (.single rfl rfl (hfree _))
  · exact .pure (.single rfl rfl (hfree _))

end Nested

/-! ## Bounds -/

/-- From a lifetime on a bound is read that is no trait. -/
theorem readsFrom_bound (depth : Nat) (captures constants : Bool) {ts : List Tree}
    (hts : Lexed ts) (h : Ahead.lifetime ts = true) :
    ReadsFrom ts (fun b ↦ b.noTrait.isSome = true) ((nestedTo depth).bound captures constants) := by
  cases depth with
  | zero => exact .of_reads .noRounds hts
  | succ depth =>
    obtain ⟨n, q, s, more, rfl⟩ := Ahead.exists_of_lifetime h
    exact ReadsFrom.ofRest (.dropOne hts nofun (.pure rfl))

namespace Nested.Closed

variable {r : Nested} (hr : r.Closed)

include hr

/-- A trait object that begins with a lifetime. -/
theorem readsFrom_objectOf (start : Span) (plus : Bool) {ts : List Tree} (hts : Lexed ts)
    (hfirst : ReadsFrom ts (fun b ↦ b.noTrait.isSome = true) (r.bound false false)) :
    ReadsFrom ts Ty.Telling (r.objectOf false start plus) := by
  have hlist : ReadsFrom ts (fun l ↦ ∃ b bs, l.1 = b :: bs ∧ b.parens = false ∧ b.inner.IsFree)
      (r.boundList plus false false) := by
    refine .ofRest (.bind hts (hfirst.and (.of_reads (hr.bound false false) hts)) fun b hb ↦ ?_)
    have hfree := hb.2.noTrait hb.1
    refine .ofSees fun _ ↦ .ite (.ofOperator (.ofSees fun _ ↦ .ite ?_ ?_)) ?_
    · exact (hr.boundListFor plus false false _).map fun l _ ↦ ⟨b, l.1, rfl, hfree⟩
    · exact .pure ⟨b, [], rfl, hfree⟩
    · exact .pure ⟨b, [], rfl, hfree⟩
  refine .bind hts hlist fun (bs, trailing) h ↦ ?_
  obtain ⟨b, bs, rfl, hparens, hfree⟩ := h
  dsimp only
  split
  · exact .fail _ _
  · exact .pure (.object hparens hfree)

/-- A bound that begins with a question mark. -/
theorem readsFrom_traitBound {ts : List Tree} (hts : Lexed ts)
    (h : Ahead.operator "?" ts = true) :
    ReadsFrom ts (fun b ↦ ∃ joined c, b.1 = .mark '?' joined :: c) (r.traitBound false) := by
  have hop : "?".toList = ['?'] := rfl
  obtain ⟨joined, s, more, rfl⟩ := Ahead.exists_mark_of_operator hop h
  have hbinder : ∀ c : Cursor, c.trees = .mark '?' joined s :: more → r.binder? c = .ok (none, c) :=
    fun c hc ↦ binder?_apply (by rw [hc]; rfl)
  have hconst : ∀ c : Cursor, c.trees = .mark '?' joined s :: more →
      Nested.constMark false c = .ok (false, c) := by
    rintro ⟨_, scope, leftover⟩ rfl
    rfl
  refine .skip hbinder (.skip hconst (.ofHere fun place ↦ ?_))
  refine .bind hts (readsFrom_operator? h) fun relaxed hrelaxed ↦ ?_
  subst hrelaxed
  refine .iteBind hr.binder? (.pure nofun) fun later _ ↦ .bind hr.traitPath fun path _ ↦ ?_
  exact .ite (.fails (.andThen (.fail _ _))) (.pure ⟨false, _, rfl⟩)

/-- Where a `+` comes next, there are further bounds. -/
theorem readsFrom_plusBounds {ts : List Tree} (hts : Lexed ts)
    (h : Ahead.operator "+" ts = true) : ReadsFrom ts (fun bs ↦ bs ≠ []) r.plusBounds := by
  have hitem : Reads Bound.Closed (do operator "+"; r.bound false false) :=
    .ofOperator (hr.bound false false)
  refine .ofRest (.ofTest (.ite (fun _ ↦ .of_reads ?_ hts) fun hnone ↦ absurd h hnone))
  exact .bind hitem fun _ _ ↦ (Reads.manyFor hitem _).map fun _ _ ↦ nofun

end Nested.Closed

/-! ## Types with types in them -/

/-- What stands in parentheses is telling. -/
def Parenthesised.Telling : Parenthesised → Prop
  | .tuple elems _ => ∀ t ∈ elems, t.Telling
  | .object t | .single t => t.Telling
  | .relaxed code => ∃ joined c, code = .mark '?' joined :: c

namespace Nested.Closed

variable {r : Nested} (hr : r.Closed) (htype : ∀ plus, Reads Ty.Telling (r.type plus))
  (hlifetime : ∀ ts, Lexed ts → Ahead.lifetime ts = true →
    ReadsFrom ts (fun b ↦ b.noTrait.isSome = true) (r.bound false false))

include hr htype hlifetime

theorem reads_parenthesised : Reads Parenthesised.Telling r.parenthesised := by
  refine .ofTrees fun ts hts ↦ .orElse hts (.pure nofun) fun _ ↦
    .ite (fun h ↦ .ofHere fun start ↦ ?_) fun _ ↦ .ite (fun h ↦ ?_) fun _ ↦ .of_reads ?_ hts
  · exact .bind hts (hr.readsFrom_objectOf start true hts (hlifetime ts hts h)) fun _ ht ↦ .pure ht
  · exact .bind hts (hr.readsFrom_traitBound hts h) fun _ hcode ↦ .pure hcode
  · refine .bind (htype true) fun first hfirst ↦ .ofOperator? fun _ ↦ .ite ?_ (.pure hfirst)
    exact (Reads.commaList (htype true)).map fun more hmore ↦
      List.forall_mem_cons.mpr ⟨hfirst, hmore⟩

theorem reads_parenType (plus : Bool) : Reads Ty.Telling (r.parenType plus) := by
  have hparens := (hr.reads_parenthesised htype hlifetime).and hr.parenthesised
  refine .bind (reads_group _ hparens) fun inside h ↦ ?_
  cases inside with
  | tuple elems trailing => exact .pure (.tuple trailing h.1 h.2)
  | object t => exact .pure (.paren h.1)
  | relaxed code =>
    obtain ⟨⟨joined, c, rfl⟩, -⟩ := h
    exact hr.plusBounds.map fun bs _ ↦ .objectRelaxed c joined
  | single t =>
    dsimp only
    cases hb : asBound? t with
    | none => exact .pure (.paren h.1)
    | some b =>
      obtain ⟨hbound, hparens⟩ := h.2.asBound hb
      refine .ofTest fun ts hts ↦ .ite (fun hplus ↦ ?_) fun _ ↦ .of_reads (.pure (.paren h.1)) hts
      have hmore := hr.readsFrom_plusBounds hts (Bool.and_eq_true_iff.mp hplus).2
      refine .bind hts hmore fun bs hbs ↦ .pure ?_
      cases hnone : b.noTrait with
      | none => exact .objectParens (hparens hnone) hbound.inner hbs
      | some s =>
        obtain ⟨hsingle, hfree⟩ := hbound.noTrait (by rw [hnone]; rfl)
        exact .object hsingle hfree

omit htype hlifetime in
theorem reads_pathType {lifetimes : Option Code} (hl : ∀ c ∈ lifetimes, Code.IsFree c)
    (plus : Bool) : Reads Ty.Telling (r.pathType lifetimes plus) := by
  refine .bind hr.path fun p hp ↦ .ofSees fun _ ↦ .ite ?_ (.ofSees fun _ ↦ ?_)
  · exact .bind (.of_yields reads_macroRest yields_macroRest) fun (_, args) hargs ↦
      .pure (.single rfl rfl (hp.isFree.append hargs))
  · have hfirst : Code.IsFree (lifetimes.getD [] ++ p.code) := .append (.getD hl) hp.isFree
    refine .ite (.ofSees fun _ ↦ .ite (.ofOperator (.ofSees fun _ ↦ .ite ?_ ?_)) ?_)
      (.pure (.single rfl rfl hp.isFree))
    · exact (hr.boundList true false false).map fun _ _ ↦ .object rfl hfirst
    · exact .pure (.object rfl hfirst)
    · exact .pure (.object rfl hfirst)

omit hr hlifetime in
theorem reads_referenceType : Reads Ty.Telling r.referenceType :=
  .ofOperator <| .bind reads_lifetime? fun l _ ↦ .ofKeyword? fun isMut ↦
    (htype false).map fun _ ht ↦ .reference l isMut ht

theorem reads_typeAfter {lifetimes : Option Code} (hl : ∀ c ∈ lifetimes, Code.IsFree c)
    (plus : Bool) : Reads Ty.Telling (r.typeAfter lifetimes plus) := by
  refine .ofTrees fun ts hts ↦ .orElse hts (hr.reads_parenType htype hlifetime _) fun _ ↦
    .orElse hts ?_ fun _ ↦ .orElse hts ?_ fun _ ↦ .orElse hts ?_ fun _ ↦
    .orElse hts (hr.reads_pathType hl _) fun _ ↦
    .orElse hts (.of_yields (hr.dynType _) (r.yields_dynType _)) fun _ ↦
    .orElse hts (.of_yields hr.bracketType r.yields_bracketType) fun _ ↦
    .orElse hts (.of_yields hr.pointerType r.yields_pointerType) fun _ ↦
    .orElse hts (reads_referenceType htype) fun _ ↦
    .orElse hts (.ofOperator (.pure (.single rfl rfl .mark))) fun _ ↦
    .orElse hts (.of_yields (hr.implType _) (r.yields_implType _)) fun _ ↦
    .orElse hts (.andThen reads_anyWord fun _ ↦ .pure (.single rfl rfl .word)) fun _ ↦
    .ite (fun h ↦ .ofHere fun start ↦ ?_) fun _ ↦ .of_reads (.want _) hts
  · refine .bind (.of_yields hr.functionPointer r.yields_functionPointer) fun code h ↦ .pure ?_
    exact .single rfl rfl (.append (.getD hl) h)
  · refine .bind (.of_yields reads_builtIn yields_builtIn) fun code h ↦ .pure ?_
    exact .single rfl rfl (.append (.getD hl) h)
  · refine .bind (.of_yields (hr.qualified true) (r.yields_qualified true)) fun q h ↦ .pure ?_
    exact .single rfl rfl h
  · exact hr.readsFrom_objectOf start true hts (hlifetime ts hts h)

theorem reads_typeOf (plus : Bool) : Reads Ty.Telling (r.typeOf plus) := by
  refine .bind (.of_yields hr.binder? r.yields_binder?) fun lifetimes hl ↦ .ofSees fun _ ↦ ?_
  exact .ite (.fails (.andThen (.want _))) (hr.reads_typeAfter htype hlifetime hl plus)

end Nested.Closed

/-- Types that are nested to any depth are telling. -/
theorem reads_type (depth : Nat) (plus : Bool) :
    Reads Ty.Telling ((nestedTo depth).type plus) := by
  induction depth generalizing plus with
  | zero => exact .noRounds
  | succ depth ih =>
    exact (Nested.closed_nestedTo depth).reads_typeOf ih
      (fun ts hts h ↦ readsFrom_bound depth false false hts h) plus

end Grammar

namespace Ty

/-- A type that is read somewhere, nested to any depth, from trees as they are cut from texts.  The
types of components are (`MarkerArgs.isRead_of_read`), and so are those in signatures
(`Grammar.isRead_signature`). -/
def IsRead (t : Ty) : Prop :=
  ∃ (depth : Nat) (plus : Bool) (c next : Cursor),
    Tree.Lexed c.trees ∧ (Grammar.nestedTo depth).type plus c = .ok (t, next)

namespace IsRead

/-- What the whole of some trees is read as. -/
theorem of_run {ts : List Tree} (hts : Tree.Lexed ts) {scope : Span} {t : Ty}
    (h : Grammar.type.run scope ts = .ok t) : t.IsRead :=
  ⟨Grammar.deepest, true, _, _, hts, (Reader.run_eq_ok_iff Grammar.shrinks_type).mp h⟩

/-- A depth of eight is enough for small types. -/
theorem of_eight {ts : List Tree} {t : Ty} {next : Cursor} (hts : Tree.Lexed ts)
    (h : (Grammar.nestedTo 8).type true ⟨ts, .nowhere, none⟩ = .ok (t, next)) : t.IsRead :=
  ⟨8, true, _, next, hts, h⟩

/-- **Types that are read are telling.** -/
theorem telling {t : Ty} (h : t.IsRead) : t.Telling := by
  obtain ⟨depth, plus, c, next, hlexed, hread⟩ := h
  exact (Grammar.reads_type depth plus c t next hlexed hread).1

end IsRead

end Ty

end TypedIds
