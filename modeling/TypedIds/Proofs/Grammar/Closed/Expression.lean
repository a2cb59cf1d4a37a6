import TypedIds.Grammar.Statement.Reader
import TypedIds.Proofs.Grammar.Closed.Type

/-!
# Expressions are closed

What the readers of patterns, expressions and statements yield is closed code, if that is so of the
readers of nested parts.
-/

set_option autoImplicit false

namespace TypedIds

theorem Expression.closed_withAttributes {e : Expression} {attrs : Code} (hattrs : attrs.Closed)
    (h : e.code.Closed) : (e.withAttributes attrs).code.Closed := by
  rw [withAttributes]
  split
  · exact h
  · split
    · exact hattrs.append (h.within _)
    · exact hattrs.append h

namespace Grammar

open Reader
open TypedIds.Tree (Lexed Leaves)

/-! ## Readers without nested parts -/

theorem reads_label : Reads Code.Closed label :=
  .bind reads_lifetime fun _ hl ↦
    .ofOperator (.pure (.append (.lifetimeToken hl.1 hl.2) (.mark .nil)))

theorem reads_afterMacroName? : Reads (fun _ ↦ True) afterMacroName? :=
  .andThen reads_plainPath.attempt.after fun (_, _) ↦ .pure trivial

/-- Operators are marks and no quotes. -/
theorem isOperator_of_binary? {ts : List Tree} {op : String} {p : Precedence}
    (h : binary? ts = some (op, p)) : IsOperator op := by
  have hoperators : ∀ o ∈ binaryOperators, IsOperator o.1 := by decide
  exact hoperators _ (List.mem_of_find?_eq_some h)

theorem closed_fractionFields {text : String} {negative : Bool} {fields : Code × Bool}
    (h : fractionFields text negative = .ok fields) : fields.1.Closed := by
  rw [fractionFields] at h
  obtain ⟨first, -, h⟩ := exists_of_bind_eq_ok h
  obtain ⟨more, -, h⟩ := exists_of_bind_eq_ok h
  cases h
  refine .separate (.mark .nil) fun c hc ↦ ?_
  obtain ⟨n, -, rfl⟩ := List.mem_map.mp hc
  exact closed_indexCode n

theorem reads_fraction? : Reads (fun o ↦ ∀ r ∈ o, Code.Closed r.1) fraction? := by
  refine .ofTrees fun ts hts ↦ ?_
  split
  · refine .ite (fun _ ↦ ?_) fun _ ↦ .of_reads (.pure nofun) hts
    split
    next fields hfields =>
      refine .dropOne hts nofun (.pure ?_)
      exact forall_mem_some (closed_fractionFields hfields)
    next => exact .of_reads (.fail _ _) hts
  · refine .ite (fun _ ↦ ?_) fun _ ↦ .of_reads (.pure nofun) hts
    split
    next fields hfields =>
      refine .drop [.mark '-' _ _, .literal _ _] hts ?_ (.pure ?_)
      · exact .mark (by decide) (hts.tail.head nofun)
      · exact forall_mem_some (closed_fractionFields hfields)
    next => exact .of_reads (.fail _ _) hts
  · exact .of_reads (.pure nofun) hts

namespace Nested.Closed

variable {r : Nested} (hr : r.Closed)

include hr

/-! ## Patterns -/

theorem alternatives : Reads (fun p ↦ p.code.Closed) r.alternatives := by
  refine .ofOperator? fun leading ↦ .bind hr.pattern fun first hfirst ↦
    .bind (.many (P := Code.Closed) (.ofOperator ?_)) fun more hmore ↦ ?_
  · exact hr.pattern.map fun _ h ↦ .mark h
  · exact .ite (.pure hfirst)
      (.pure (.append (.append (.ite (.mark .nil) .nil) hfirst) (.flatten hmore)))

theorem rangeBound? : Reads (fun o ↦ ∀ c ∈ o, Code.Closed c) r.rangeBound? := by
  refine .ofRest fun ts ↦ .ite (.pure nofun) <| .ite ?_ <| .ite ?_ <| .ite ?_ (.want _)
  · exact reads_literal.map fun _ ↦ forall_mem_some
  · exact hr.expressionPath.map fun _ ↦ forall_mem_some
  · exact .bind (reads_keywordCode "const") fun _ hw ↦
      hr.body.map fun _ h ↦ forall_mem_some (hw.append h)

/-- A range is read from its dots on. -/
theorem rangeRest {start : Option Code} (hstart : ∀ c ∈ start, Code.Closed c) {ts : List Tree}
    (hts : Lexed ts) (hdots : Ahead.operator ".." ts = true) :
    ReadsFrom ts (fun p ↦ p.code.Closed) (r.rangeRest start) := by
  have hleaves : Leaves ts
      (ts.drop (if Ahead.operator "..=" ts || Ahead.operator "..." ts then 3 else 2)) := by
    split
    next h =>
      obtain h | h := Bool.or_eq_true_iff.mp h <;> exact leaves_of_operator h
    next => exact leaves_of_operator hdots
  refine .ofRest (.bind hts (.taking (.dropped hleaves)) fun (_, dots) _ ↦ ?_)
  refine .bind hr.rangeBound? fun stop hstop ↦ .ite (.fails (.andThen (.want _))) (.pure ?_)
  have hcode : Code.Closed (start.getD [] ++
      Code.op (if Ahead.operator "..=" ts || Ahead.operator "..." ts then "..=" else "..") ++
      stop.getD []) := by
    refine .append (.append (.getD hstart) ?_) (.getD hstop)
    split <;> exact .op
  split <;> exact hcode

theorem literalPattern : Reads (fun p ↦ p.code.Closed) r.literalPattern := by
  refine .bind hr.rangeBound? fun start hstart ↦ .ofTest fun ts hts ↦ .ite (fun h ↦ ?_) fun _ ↦ ?_
  · exact hr.rangeRest (forall_mem_some (.getD hstart)) hts h
  · exact .of_reads (.pure (.getD hstart)) hts

theorem fieldPattern {attrs : Code} (hattrs : attrs.Closed) :
    Reads Code.Closed (r.fieldPattern attrs) := by
  refine .bind (Reads.taking (P := fun a ↦ Code.Closed a.1) ?_)
    fun ((words, isBoxed, named), taken) h ↦ .ite (.pure ?_) (.ofOperator ?_)
  · refine .ofKeyword? fun _ ↦ .bind (reads_keywordCode? "ref") fun _ href ↦
      .bind (reads_keywordCode? "mut") fun _ hmut ↦ .ite ?_ ?_
    · exact reads_name.map fun _ hn ↦ .append (.append href hmut) (.wordToken hn.2)
    · exact .bind reads_fieldName fun (code, isName) hcode ↦ .ofSees fun _ ↦ .pure hcode
  · exact hattrs.append (.ite (.of_lexed h.2) h.1)
  · exact hr.alternatives.map fun _ hp ↦ .append (hattrs.append h.1) (.mark hp)

theorem fieldPatternsFor (n : Nat) : Reads Code.Closed (r.fieldPatternsFor n) := by
  induction n with
  | zero => exact .noRounds
  | succ n ih =>
    refine .ofSees fun _ ↦ .ite (.pure .nil) (.bind hr.outerCode fun attrs hattrs ↦ ?_)
    refine .ofOperator? fun _ ↦ .ite (.pure (hattrs.append .op)) ?_
    refine .bind (hr.fieldPattern hattrs) fun field hfield ↦ .ofSees fun _ ↦ .ite (.pure hfield) ?_
    exact .ofOperator (ih.map fun _ h ↦ hfield.append (.mark h))

theorem patternList : Reads Code.Closed r.patternList :=
  .bind (.commaList (hr.alternatives.map fun _ h ↦ h)) fun _ h ↦ .pure (.commas h _)

theorem pathPattern : Reads (fun p ↦ p.code.Closed) r.pathPattern := by
  refine .bind hr.expressionPath fun (path, isPlain) hpath ↦ .ofTrees fun ts hts ↦ ?_
  refine .orElse hts ?_ fun _ ↦ .orElse hts ?_ fun _ ↦ .orElse hts ?_ fun _ ↦
    .ite (fun h ↦ ?_) fun _ ↦ .of_reads (.pure hpath) hts
  · exact reads_macroRest.map fun _ h ↦ .append hpath h
  · refine .bind (reads_group _ (.ofRest fun _ ↦ hr.fieldPatternsFor _)) fun _ h ↦ .pure ?_
    exact .append hpath (.within h _)
  · exact (reads_group _ hr.patternList).map fun _ h ↦ .append hpath (.within h _)
  · exact hr.rangeRest (forall_mem_some hpath) hts h

theorem slicePattern : Reads (fun p ↦ p.code.Closed) r.slicePattern := by
  refine .bind (reads_group _ (.commaList (P := Code.Closed) ?_)) fun _ h ↦
    .pure (.within (.commas h _) _)
  refine .bind hr.alternatives fun p hp ↦ ?_
  split
  · exact .fail _ _
  · exact .pure hp

theorem bindingPattern : Reads (fun p ↦ p.code.Closed) r.bindingPattern := by
  refine .bind (reads_keywordCode? "ref") fun a ha ↦ .bind (reads_keywordCode? "mut") fun b hb ↦
    .ofSees fun _ ↦ .iteBind reads_anyWord reads_name fun (n, _) hn ↦ .ofOperator? fun _ ↦ ?_
  have hwords {sub : Code} (h : sub.Closed) : (a ++ b ++ .word n :: sub : Code).Closed :=
    (ha.append hb).append (.append (.wordToken hn.2) h)
  exact .ite (.bind hr.pattern fun _ h ↦ .pure (hwords (.mark h))) (.pure (hwords .nil))

theorem boxPattern : Reads (fun p ↦ p.code.Closed) r.boxPattern :=
  have hpattern : Reads (fun p ↦ p.code.Closed) (do keyword "box"; r.pattern) :=
    .ofKeyword hr.pattern
  .bind hpattern.taking fun _ h ↦ .pure (.of_lexed h.2)

theorem patternOf : Reads (fun p ↦ p.code.Closed) r.patternOf := by
  have hnone : ∀ c ∈ (none : Option Code), Code.Closed c := nofun
  refine .ofTrees fun ts hts ↦ .orElse hts hr.pathPattern fun _ ↦ .orElse hts ?_ fun _ ↦
    .orElse hts hr.boxPattern fun _ ↦ .orElse hts hr.literalPattern fun _ ↦
    .orElse hts hr.bindingPattern fun _ ↦ .orElse hts ?_ fun _ ↦ .orElse hts ?_ fun _ ↦
    .orElse hts hr.slicePattern fun _ ↦ .ite (fun h ↦ ?_) fun _ ↦ .of_reads (.want _) hts
  · exact reads_anyWord.map fun _ h ↦ .wordToken h.2
  · refine .ofOperator (.bind (reads_keywordCode? "mut") fun _ hmut ↦ ?_)
    exact hr.pattern.map fun _ h ↦ .append (.mark hmut) h
  · exact (reads_group _ hr.patternList).map fun _ h ↦ .within h _
  · exact hr.rangeRest hnone hts (Bool.and_eq_true_iff.mp h).1

/-! ## What follows an operand -/

theorem callArguments : Reads Code.Closed r.callArguments := by
  refine .bind (reads_group _ (.commaList hr.expression)) fun (args, trailing) h ↦
    .pure (.within (.commas (fun c hc ↦ ?_) _) _)
  obtain ⟨e, he, rfl⟩ := List.mem_map.mp hc
  exact h e he

theorem memberAccess : Reads Code.Closed r.memberAccess := by
  refine .ofKeyword? fun _ ↦ .ite (.pure (.word .nil)) ?_
  refine .bind reads_fieldName fun (member, isName) hmember ↦ .ofSees fun _ ↦ ?_
  have hcall : Reads Code.Closed (do return member ++ (← r.callArguments)) :=
    hr.callArguments.map fun _ h ↦ .append hmember h
  refine .ite (.ofOperator (.bind (hr.argumentsAfter true) fun args hargs ↦ .pureBind ?_)) ?_
  · exact hr.callArguments.map fun _ h ↦ .append (.append hmember hargs) h
  · exact .pureBind (.ofSees fun _ ↦ .ite hcall (.pure hmember))

theorem afterPoint : Reads Code.Closed r.afterPoint := by
  refine .ofOperator (.bind reads_fraction? fun o ho ↦ ?_)
  split
  · exact hr.memberAccess.map fun _ h ↦ .mark h
  · exact .pure (.mark (ho _ rfl))
  · exact hr.memberAccess.map fun _ h ↦ .append (.mark (ho _ rfl)) (.mark h)

theorem trailersFor (n : Nat) {e : Expression} (he : e.code.Closed) :
    Reads (fun e ↦ e.code.Closed) (r.trailersFor n e) := by
  induction n generalizing e with
  | zero => exact .noRounds
  | succ n ih =>
    refine .ofRest fun ts ↦ .ite ?_ <| .ite ?_ <| .ite ?_ <| .ite ?_ (.pure he)
    · exact .bind hr.callArguments fun _ h ↦ ih (he.append h)
    · exact .bind hr.afterPoint fun _ h ↦ ih (he.append h)
    · exact .bind (reads_group _ hr.expression) fun _ h ↦ ih (he.append (h.within _))
    · exact .ofOperator (ih (he.append (.mark .nil)))

theorem trailers {e : Expression} (he : e.code.Closed) :
    Reads (fun e ↦ e.code.Closed) (r.trailers e) :=
  .ofRest fun _ ↦ hr.trailersFor _ he

/-! ## Operators -/

theorem rightSideFor (structs : Bool) (p : Precedence) (n : Nat) {e : Expression}
    (he : e.code.Closed) : Reads (fun e ↦ e.code.Closed) (r.rightSideFor structs p n e) := by
  induction n generalizing e with
  | zero => exact .noRounds
  | succ n ih =>
    refine .ofRest fun ts ↦ .ite (.bind (hr.climb _ _ _ he) fun e he ↦ ?_) (.pure he)
    exact .ofRest fun _ ↦ .ite (.pure he) (ih he)

theorem rightSide (structs : Bool) (p : Precedence) :
    Reads (fun e ↦ e.code.Closed) (r.rightSide structs p) :=
  .bind (hr.operand structs) fun _ he ↦ .ofRest fun _ ↦ hr.rightSideFor _ _ _ he

theorem rangeFrom (structs : Bool) {start : Code} (hstart : start.Closed) :
    Reads (fun e ↦ e.code.Closed) (r.rangeFrom structs start) := by
  refine .ofRest fun ts ↦ .ite (.fails (.andThen (.want _))) ?_
  have hop : IsOperator (if Ahead.operator "..=" ts then "..=" else "..") := by
    split <;> decide
  refine .bind (reads_operator hop).taking fun (_, dots) _ ↦ .ofSees fun _ ↦ ?_
  have hstart := hstart.append (.op hop)
  refine .ite (.pureBind (.pure (hstart.append .nil))) ?_
  exact .bind (hr.rightSide structs .range) fun _ h ↦ .pureBind (.pure (hstart.append h))

theorem castOf {e : Expression} (he : e.code.Closed) :
    Reads (fun e ↦ e.code.Closed) (r.castOf e) := by
  refine .ofKeyword (.bind (hr.type false) fun t ht ↦ .ofRest fun ts ↦ ?_)
  split
  · exact .ofHere fun _ ↦ .fail _ _
  · exact .pure (he.append (.word ht.code))

theorem operation? (structs : Bool) (base : Precedence) {e : Expression} (he : e.code.Closed) :
    Reads (fun o ↦ ∀ e ∈ o, e.code.Closed) (r.operation? structs base e) := by
  refine .ofRest fun ts ↦ .ite (.pure nofun) ?_
  split
  next op p hbinary =>
    have hop := isOperator_of_binary? hbinary
    refine .ite (.pure nofun) (.ite (.ofHere fun _ ↦ .fails (.andThen (.fail _ _))) ?_)
    refine .ofOperator (.bind (hr.rightSide structs p) fun right hright ↦ .pure ?_) hop
    exact forall_mem_some (.append (he.append (.op hop)) hright)
  next =>
    refine .ite (.ofOperator (.bind (hr.rightSide structs .assign) fun right hright ↦ ?_)) <|
      .ite ?_ <| .ite ?_ (.pure nofun)
    · exact .pure (forall_mem_some (he.append (.mark hright)))
    · exact (hr.rangeFrom structs he).map fun _ h ↦ forall_mem_some h
    · exact (hr.castOf he).map fun _ h ↦ forall_mem_some h

theorem climbFor (structs : Bool) (base : Precedence) (n : Nat) {e : Expression}
    (he : e.code.Closed) : Reads (fun e ↦ e.code.Closed) (r.climbFor structs base n e) := by
  induction n generalizing e with
  | zero => exact .noRounds
  | succ n ih =>
    refine .bind (hr.operation? structs base he) fun o ho ↦ ?_
    cases o with
    | none => exact .pure he
    | some e => exact ih (ho e rfl)

theorem climbFrom (structs : Bool) (base : Precedence) {e : Expression} (he : e.code.Closed) :
    Reads (fun e ↦ e.code.Closed) (r.climbFrom structs base e) :=
  .ofRest fun _ ↦ hr.climbFor _ _ _ he

/-! ## Paths and groups -/

theorem fieldValue : Reads Code.Closed r.fieldValue := by
  refine .bind hr.outerCode fun attrs hattrs ↦ .bind reads_fieldName fun (member, isName) hmember ↦
    .ofSees fun _ ↦ .ite (.pure (hattrs.append hmember)) (.ofOperator ?_)
  exact hr.expression.map fun _ h ↦ .append (hattrs.append hmember) (.mark h)

theorem fieldValuesFor (n : Nat) : Reads Code.Closed (r.fieldValuesFor n) := by
  induction n with
  | zero => exact .noRounds
  | succ n ih =>
    refine .ofSees fun _ ↦ .ite (.pure .nil) (.ofOperator? fun _ ↦ .ite (.ofSees fun _ ↦ ?_) ?_)
    · exact .ite (.pure .op) (hr.expression.map fun _ h ↦ .append .op h)
    · refine .bind hr.fieldValue fun field hfield ↦ .ofSees fun _ ↦ .ite (.pure hfield) ?_
      exact .ofOperator (ih.map fun _ h ↦ hfield.append (.mark h))

theorem pathAtom (structs : Bool) : Reads (fun e ↦ e.code.Closed) (r.pathAtom structs) := by
  refine .bind hr.expressionPath fun (path, isPlain) hpath ↦ .ofSees fun _ ↦
    .ite (reads_macroRest.map fun _ h ↦ .append hpath h) (.ofSees fun _ ↦ .ite ?_ (.pure hpath))
  refine .bind (reads_group _ (.ofRest fun _ ↦ hr.fieldValuesFor _)) fun _ h ↦ .pure ?_
  exact .append hpath (.within h _)

theorem listAfter {first : Expression} (hfirst : first.code.Closed) :
    Reads Code.Closed (r.listAfter first) := by
  refine .ofSees fun _ ↦ .ite (.pure hfirst) (.ofOperator ?_)
  refine .bind (.commaList hr.expression) fun (more, trailing) hmore ↦ .pure (.commas ?_ _)
  refine List.forall_mem_cons.mpr ⟨hfirst, fun c hc ↦ ?_⟩
  obtain ⟨e, he, rfl⟩ := List.mem_map.mp hc
  exact hmore e he

theorem parenAtom : Reads (fun e ↦ e.code.Closed) r.parenAtom := by
  refine .bind (reads_group (P := Code.Closed) _ ?_) fun _ h ↦ .pure (.within h _)
  exact .ofSees fun _ ↦ .ite (.pure .nil) (.bind hr.expression fun _ h ↦ hr.listAfter h)

theorem arrayAtom : Reads (fun e ↦ e.code.Closed) r.arrayAtom := by
  refine .bind (reads_group (P := Code.Closed) _ ?_) fun _ h ↦ .pure (.within h _)
  refine .ofSees fun _ ↦ .ite (.pure .nil) (.bind hr.expression fun first hfirst ↦ ?_)
  refine .ofRest fun ts ↦ .ite (hr.listAfter hfirst) (.ofOperator? fun _ ↦ .ite ?_ (.want _))
  exact hr.expression.map fun _ h ↦ hfirst.append (.mark h)

/-! ## Closures -/

theorem closureParam : Reads Code.Closed r.closureParam := by
  refine .bind hr.outerCode fun attrs hattrs ↦ .bind hr.pattern fun p hp ↦
    .ofOperator? fun _ ↦ .ite ?_ (.pure (.append (.ite .nil hattrs) hp))
  exact (hr.type true).map fun t ht ↦ .append (hattrs.append hp) (.mark ht.code)

theorem closureRest (structs : Bool) : Reads Code.Closed (r.closureRest structs) := by
  refine .ofOperator? fun _ ↦ .ite ?_ ((hr.expressionWith structs).map fun _ h ↦ h)
  exact .bind (hr.type true) fun t ht ↦ hr.block.map fun _ h ↦ .append (.append .op ht.code) h

theorem closureAtom (structs : Bool) : Reads (fun e ↦ e.code.Closed) (r.closureAtom structs) := by
  refine .bind hr.binder? fun binder hbinder ↦ .bind (reads_keywordCode? "const") fun a ha ↦
    .bind (reads_keywordCode? "static") fun b hb ↦ .bind (reads_keywordCode? "async") fun c hc ↦
    .bind (reads_keywordCode? "move") fun d hd ↦ .ofOperator <|
    .bind (.separated reads_operator hr.closureParam) fun (params, trailing) hparams ↦
    .ofOperator ((hr.closureRest structs).map fun _ h ↦ .append ?_ h)
  have hwords : (a ++ b ++ c ++ d : Code).Closed := ((ha.append hb).append hc).append hd
  exact .append (.append (.append (.getD hbinder) hwords) (.mark (.commas hparams _)))
    (.mark .nil)

/-! ## Leaving a block -/

theorem value? (structs : Bool) : Reads Code.Closed (r.value? structs) :=
  .ofRest fun _ ↦ .ite (hr.expression.map fun _ h ↦ h) (.pure .nil)

theorem breakAtom (structs : Bool) : Reads (fun e ↦ e.code.Closed) (r.breakAtom structs) := by
  refine .ofKeyword (.ofRest fun ts ↦ .ite (.ofHere fun start ↦ ?_) ?_)
  · exact .andThen hr.expression.taking fun _ ↦ .fails (.andThen (.fail _ _))
  · exact .bind reads_lifetimeCode? fun l hl ↦ (hr.value? structs).map fun _ h ↦
      .append (.word hl) h

theorem wordWithValue (w : String) (hw : autoParam (IsPlainWord w) Rat.den_nz._autoParam) :
    Reads (fun e ↦ e.code.Closed) (r.wordWithValue w) :=
  .ofKeyword ((hr.value? true).map fun _ h ↦ .append (.wordToken hw) h)

theorem becomeAtom : Reads (fun e ↦ e.code.Closed) r.becomeAtom :=
  have hvalue : Reads (fun e ↦ e.code.Closed) (do keyword "become"; r.expression) :=
    .ofKeyword hr.expression
  .bind hvalue.taking fun _ h ↦ .pure (.of_lexed h.2)

/-! ## Blocks with a condition -/

theorem letAtom (structs : Bool) : Reads (fun e ↦ e.code.Closed) (r.letAtom structs) :=
  .ofKeyword <| .bind hr.alternatives fun p hp ↦ .ofOperator <|
    .bind (hr.operand structs) fun e he ↦ (hr.climb structs .compare e he).map fun _ h ↦
      .append (.word hp) (.mark h)

theorem ifCode (n : Nat) : Reads Code.Closed (r.ifCode n) := by
  induction n with
  | zero => exact .noRounds
  | succ n ih =>
    refine .ofKeyword (.bind hr.condition fun c hc ↦ .bind hr.block fun b hb ↦ ?_)
    have hhead : Code.Closed (.word "if" :: c.code ++ b) := .append (.word hc) hb
    refine .ofKeyword? fun _ ↦ .ite (.ofRest fun ts ↦ .ite ?_ (.ite ?_ (.want _))) (.pure hhead)
    · exact ih.map fun _ h ↦ hhead.append (.word h)
    · exact hr.block.map fun _ h ↦ hhead.append (.word h)

theorem arm : Reads Code.Closed r.arm := by
  refine .bind hr.outerCode fun attrs hattrs ↦ .bind hr.alternatives fun p hp ↦
    .ofKeyword? fun _ ↦ .optional (P := Code.Closed) hr.expression (fun e he ↦ .word he) .nil
    fun guard hguard ↦ .ofOperator <| .bind hr.clause fun e he ↦ .ofSees fun _ ↦ ?_
  have hhead := (((hattrs.append hp).append hguard).append (.op (s := "=>"))).append he
  refine .ite (.ofOperator (.pure (hhead.append (.mark .nil)))) ?_
  exact (reads_operatorCode? ",").map fun _ ↦ hhead.append

theorem matchBody : Reads Code.Closed r.matchBody := by
  refine .bind (reads_group (P := Code.Closed) _ ?_) fun _ h ↦ .pure (.within h _)
  exact .bind hr.innerCode fun _ hinner ↦ (Reads.many hr.arm).map fun _ h ↦
    hinner.append (.flatten h)

theorem forCode : Reads Code.Closed r.forCode :=
  .ofKeyword <| .bind hr.alternatives fun p hp ↦ .ofKeyword <| .bind hr.condition fun e he ↦
    hr.body.map fun _ h ↦ .append (.append (.word hp) (.word he)) h

theorem blockLike? : Reads (fun o ↦ ∀ c ∈ o, Code.Closed c) r.blockLike? := by
  have hword (w : String) (hw : IsPlainWord w) {p : Reader Code} (hp : Reads Code.Closed p) :
      Reads (fun o ↦ ∀ c ∈ o, Code.Closed c) (do
        return some ((← keywordCode w) ++ (← p))) :=
    .bind (reads_keywordCode w hw) fun _ ha ↦ hp.map fun _ hb ↦ forall_mem_some (ha.append hb)
  refine .ofRest fun ts ↦ .ite ((hr.ifCode _).map fun _ ↦ forall_mem_some) <|
    .ite (.ofKeyword ?_) <| .ite (hr.forCode.map fun _ ↦ forall_mem_some) <|
    .ite (hword _ (by decide) hr.body) <|
    .ite (.ofKeyword ?_) <| .ite (hword _ (by decide) hr.block) <|
    .ite (hword _ (by decide) hr.body) <| .ite (hword _ (by decide) hr.body) <|
    .ite (hr.body.map fun _ ↦ forall_mem_some) (.pure nofun)
  · exact .bind hr.condition fun c hc ↦ hr.body.map fun _ h ↦ forall_mem_some (.append (.word hc) h)
  · exact .bind hr.condition fun c hc ↦
      hr.matchBody.map fun _ h ↦ forall_mem_some (.append (.word hc) h)

theorem labelledCode : Reads Code.Closed r.labelledCode := by
  refine .bind reads_label fun l hl ↦ .ofRest fun ts ↦ .ite ?_ (.want _)
  refine .iteBind (.mapSome hr.forCode) hr.blockLike? fun o ho ↦ ?_
  cases o with
  | none => exact .want _
  | some c => exact .pure (hl.append (ho c rfl))

/-! ## Atoms -/

omit hr in
theorem wordAtom : Reads (fun e ↦ e.code.Closed) wordAtom :=
  reads_anyWord.map fun _ h ↦ .wordToken h.2

theorem atom (structs : Bool) : Reads (fun e ↦ e.code.Closed) (r.atom structs) := by
  refine .ofRest fun ts ↦ .ite (reads_literal.map fun _ h ↦ h) <| .ite (.ofKeyword ?_) <|
    .ite (hr.closureAtom structs) <| .ite (reads_builtIn.map fun _ h ↦ h) <|
    .ite (hr.pathAtom structs) <| .ite hr.parenAtom <| .ite (hr.breakAtom structs) <|
    .ite (.ofKeyword (reads_lifetimeCode?.map fun _ h ↦ .word h)) <|
    .ite (hr.wordWithValue "return") <| .ite hr.becomeAtom <| .ite hr.arrayAtom <|
    .ite (hr.letAtom structs) <| .ite (hr.wordWithValue "yield") <|
    .ite (hr.rangeFrom structs .nil) <| .ite wordAtom <|
    .ite (hr.labelledCode.map fun _ h ↦ h) (.bind hr.blockLike? fun o ho ↦ ?_)
  · exact .bind (reads_keywordCode? "move") fun moved hmoved ↦ hr.block.map fun _ h ↦
      .append (.word hmoved) h
  · cases o with
    | none => exact .want _
    | some code => exact .pure (ho code rfl)

theorem trailed (structs : Bool) {attrs : Code} (hattrs : attrs.Closed) {before : List Tree}
    (hbefore : Lexed before) :
    Reads (fun e ↦ e.code.Closed) (r.trailed structs attrs before) := by
  have hatom : Reads (fun e ↦ e.code.Closed) (do r.trailers (← r.atom structs)) :=
    .bind (hr.atom structs) fun _ he ↦ hr.trailers he
  refine .bind hatom.taking fun (e, taken) h ↦ ?_
  dsimp only
  split
  · exact .pure (.of_lexed (hbefore.append h.2))
  · exact .ite (.pure h.1) (.fail _ _)
  · exact .pure (Expression.closed_withAttributes hattrs h.1)

omit hr in
theorem referenceWords : Reads Code.Closed referenceWords := by
  refine .ofTrees fun ts hts ↦ .ite (fun h ↦ ?_) fun _ ↦ .of_reads (reads_keywordCode? "mut") hts
  obtain ⟨s, more, rfl⟩ := Ahead.exists_of_word (Bool.and_eq_true_iff.mp h).1
  exact .dropOne hts nofun (reads_anyWord.map fun _ h ↦ .word (.wordToken h.2))

theorem operandOf (structs : Bool) : Reads (fun e ↦ e.code.Closed) (r.operandOf structs) := by
  refine .bind hr.outerCode.taking fun (attrs, before) hattrs ↦ .ofTrees fun ts hts ↦
    .orElse hts (.ofOperator ?_) fun _ ↦ ?_
  · refine .bind referenceWords fun words hwords ↦ (hr.operand structs).map fun _ h ↦ ?_
    exact .append (hattrs.1.append (.mark hwords)) h
  · split
    next c hfind =>
      have hmarks : ['*', '!', '-'].all (fun c ↦ decide (IsMark c)) = true := by decide
      have hc := of_decide_eq_true (List.all_eq_true.mp hmarks c (List.mem_of_find?_eq_some hfind))
      have hseen : Ahead.operator (String.singleton c) ts = true := by
        simpa using List.find?_some hfind
      have hop : IsOperator (String.singleton c) := by simpa [IsOperator] using hc
      have hleaves : Leaves ts (ts.drop 1) := by simpa using leaves_of_operator hseen hop
      refine .bind hts (.dropped hleaves) fun _ _ ↦ (hr.operand structs).map fun _ h ↦ ?_
      exact hattrs.1.append (.mark h hc)
    next => exact .of_reads (hr.trailed structs hattrs.1 hattrs.2) hts

theorem clauseOf : Reads (fun e ↦ e.code.Closed) r.clauseOf := by
  refine .bind hr.outerCode fun attrs hattrs ↦ .ofSees fun labelled ↦ ?_
  refine .iteBind (.mapSome hr.labelledCode) hr.blockLike? fun o ho ↦ ?_
  cases o with
  | none =>
    refine .bind (hr.operand true) fun e he ↦ hr.climb _ _ _ ?_
    exact Expression.closed_withAttributes hattrs he
  | some code =>
    refine .ofSees fun _ ↦ .ite (.bind (hr.trailers (ho code rfl)) fun e he ↦ ?_) (.pure ?_)
    · exact hr.climb _ _ _ (Expression.closed_withAttributes hattrs he)
    · exact Expression.closed_withAttributes hattrs (ho code rfl)

/-! ## Statements -/

theorem letStatement : Reads Code.Closed r.letStatement := by
  refine .ofKeyword <| .bind hr.pattern fun p hp ↦ .ofOperator? fun _ ↦
    .optional (P := Code.Closed) (hr.type true) (fun t ht ↦ .mark ht.code) .nil fun type htype ↦
    .ofOperator? fun _ ↦ ?_
  have hend {value : Code} (hvalue : value.Closed) : Reads Code.Closed (do
      operator ";"
      return .word "let" :: p.code ++ type ++ value ++ [.mark ';' false]) :=
    .ofOperator (.pure (.append (.append (.append (.word hp) htype) hvalue) (.mark .nil)))
  refine .ite (.bind hr.expression fun e he ↦ .ofSees fun _ ↦ .ite ?_ ?_) (.pureBind (hend .nil))
  · exact .ofKeyword (.bind hr.block fun _ h ↦
      .pureBind (.pureBind (hend (.append (.mark he) (.word h)))))
  · exact .pureBind (.pureBind (hend (.append (.mark he) .nil)))

theorem statement : Reads (fun r ↦ r.1.Closed) r.statement := by
  refine .ofGet fun start hstart ↦ .bind hstart hr.outerCode fun attrs hattrs ↦ .ofRest fun ts ↦
    .bind hstart reads_afterMacroName? fun _ _ ↦ ?_
  refine .ite (.of_reads hstart ?_) <| .ite (.of_reads hstart ?_) <| .ite ?_ (.of_reads hstart ?_)
  · refine .bind reads_plainPath fun path hpath ↦ .bind reads_macroRest fun (_, args) hargs ↦ ?_
    exact (reads_operatorCode? ";").map fun _ ↦ .append (.append (.append hattrs hpath.code) hargs)
  · exact hr.letStatement.map fun _ ↦ .append hattrs
  · exact .goBack hstart (hr.item.map fun _ h ↦ h)
  · refine .bind hr.clause fun e he ↦ ?_
    have hcode := Expression.closed_withAttributes hattrs he
    exact .ofOperator? fun _ ↦ .ite (.pure (hcode.append (.mark .nil))) (.pure hcode)

theorem statementsFor (n : Nat) : Reads Code.Closed (r.statementsFor n) := by
  induction n with
  | zero => exact .noRounds
  | succ n ih =>
    refine .ofOperator? fun _ ↦ .ite (ih.map fun _ h ↦ .mark h) (.ofSees fun _ ↦ ?_)
    refine .ite (.pure .nil) (.bind hr.statement fun (code, open_) hcode ↦ .ofSees fun _ ↦ ?_)
    refine .ite (.pure hcode) (.ite (.ofHere fun _ ↦ .fails (.andThen (.fail _ _))) ?_)
    exact ih.map fun _ h ↦ .append hcode h

theorem statementsOf : Reads Code.Closed r.statementsOf := .ofRest fun _ ↦ hr.statementsFor _

end Nested.Closed

end Grammar

end TypedIds
