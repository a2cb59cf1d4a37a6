import TypedIds.Grammar.Type.Reader
import TypedIds.Proofs.Grammar.Closed.Fragment

/-!
# Types are closed

What the readers of attributes, paths, generics, bounds and types yield is closed code, if that is
so of the readers of nested parts (`Nested.Closed`).
-/

set_option autoImplicit false

namespace TypedIds

/-- The code of a type is closed, and so are the bounds of a trait object. -/
structure Ty.Closed (t : Ty) : Prop where
  code : t.code.Closed
  bounds : ∀ isDyn bs trailing, t = .object isDyn bs trailing → ∀ b ∈ bs, b.Closed

/-- A type that is no trait object. -/
theorem Ty.Closed.ofCode {t : Ty} (h : t.code.Closed)
    (hnone : ∀ isDyn bs trailing, t ≠ .object isDyn bs trailing) : t.Closed :=
  ⟨h, fun _ _ _ ht ↦ absurd ht (hnone _ _ _)⟩

theorem Ty.Closed.object {isDyn trailing : Bool} {bs : List Bound}
    (h : ∀ b ∈ bs, b.Closed) : (Ty.object isDyn bs trailing).Closed := by
  refine ⟨?_, ?_⟩
  · rw [Ty.code]
    exact .append (.ite (.word .nil) .nil) (Bound.closed_codeAll h _)
  · rintro _ _ _ ⟨⟩
    exact h

theorem Ty.Closed.other {form : TypeForm} {code : Code} (h : code.Closed) :
    (Ty.other form code).Closed :=
  .ofCode (by rwa [Ty.code]) nofun

namespace Ty.Closed

variable {t : Ty}

theorem paren (h : t.Closed) : (Ty.paren t).Closed :=
  .ofCode (by rw [Ty.code]; exact h.code.within _) nofun

theorem tuple {ts : List Ty} (h : ∀ t ∈ ts, t.Closed) (trailing : Bool) :
    (Ty.tuple ts trailing).Closed :=
  .ofCode (by rw [Ty.code]; exact .within (Ty.closed_codeList (fun t ht ↦ (h t ht).code) _) _) nofun

theorem array {length : Expression} (h : t.Closed) (hlength : length.code.Closed) :
    (Ty.array t length.code).Closed :=
  .ofCode (by rw [Ty.code]; exact .within (h.code.append (.mark hlength)) _) nofun

theorem slice (h : t.Closed) : (Ty.slice t).Closed :=
  .ofCode (by rw [Ty.code]; exact h.code.within _) nofun

theorem reference {lifetime : Option String} (hl : ∀ n ∈ lifetime, IsWord n) (isMut : Bool)
    (h : t.Closed) : (Ty.reference lifetime isMut t).Closed := by
  have hlifetime : Code.Closed (lifetime.map Token.lifetime).toList := by
    cases lifetime with
    | none => exact .nil
    | some n => exact .lifetimeToken (hl n rfl).1 (hl n rfl).2
  refine .ofCode ?_ nofun
  rw [Ty.code]
  exact .append (.mark (hlifetime.append (.ite (.word .nil) .nil))) h.code

theorem qualified {front : Code} {last : Segment} (hfront : front.Closed) (hlast : last.Closed) :
    (Ty.qualified front last).Closed :=
  .ofCode (by rw [Ty.code]; exact hfront.append hlast.code) nofun

/-- What can be the first bound of a trait object is closed.  It stands in parentheses if it is a
trait. -/
theorem asBound {b : Bound} (h : t.Closed) (hb : Grammar.asBound? t = some b) :
    b.Closed ∧ (b.noTrait = none → b.parens = true) := by
  rw [Grammar.asBound?.eq_def] at hb
  split at hb
  · obtain rfl := Option.some.inj hb
    exact ⟨.ofTrait h.code true, fun _ ↦ rfl⟩
  next b' =>
    have hbound := h.bounds _ _ _ rfl b' (List.mem_singleton_self b')
    split at hb
    next hsome =>
      obtain rfl := Option.some.inj hb
      exact ⟨hbound, fun hnone ↦ by simp [hnone] at hsome⟩
    next hnone =>
      obtain rfl := Option.some.inj hb
      exact ⟨⟨hbound.inner, fun hsome ↦ absurd hsome hnone⟩, fun _ ↦ rfl⟩
  · cases hb

end Ty.Closed

theorem Path.Closed.toTy {p : Path} (h : p.Closed) : p.toTy.Closed := .ofCode h.code nofun

/-- What stands in parentheses is closed. -/
def Grammar.Parenthesised.Closed : Grammar.Parenthesised → Prop
  | .tuple elems _ => ∀ t ∈ elems, t.Closed
  | .object t | .single t => t.Closed
  | .relaxed code => code.Closed

theorem Attribute.closed_codeAll {as : List Attribute} (h : ∀ a ∈ as, a.code.Closed) :
    (Attribute.codeAll as).Closed := by
  rw [Attribute.codeAll, List.flatMap_def]
  refine .flatten fun c hc ↦ ?_
  obtain ⟨a, ha, rfl⟩ := List.mem_map.mp hc
  exact h a ha

namespace Grammar

open Reader
open TypedIds.Tree (Lexed)

/-! ## Readers without nested parts -/

theorem reads_attributePath : Reads Path.Closed attributePath :=
  .ofKeyword? fun _ ↦ .ite (.pure (.ofNames nofun (by decide))) reads_plainPath

theorem reads_lastLiteral : Reads Code.Closed lastLiteral :=
  .bind reads_literal fun _ h ↦ .ofSees fun _ ↦ .ite (.pure h) (.want _)

theorem closed_signs {signs : List Tree} (h : AreMarks signs) :
    Code.Closed (signs.flatMap fun t ↦
      match t with | .mark c _ _ => [.mark c false] | _ => []) := by
  rw [List.flatMap_def]
  refine .flatten fun c hc ↦ ?_
  obtain ⟨t, ht, rfl⟩ := List.mem_map.mp hc
  obtain ⟨m, joined, s, rfl, hm⟩ := h t ht
  exact .markToken hm _

theorem closed_afterColon {c : Code} (h : c.Closed) : (afterColon c).Closed :=
  .ite .nil (.mark h)

theorem reads_lifetimeBounds (stop : List Tree → Bool) (n : Nat) :
    Reads Code.Closed (lifetimeBounds stop n) := by
  induction n with
  | zero => exact .noRounds
  | succ n ih =>
    refine .ofSees fun _ ↦ .ite (.pure .nil) (.bind reads_lifetime fun l hl ↦ ?_)
    have htoken := Code.Closed.lifetimeToken hl.1 hl.2
    exact .ofOperator? fun _ ↦ .ite (ih.map fun _ h ↦ .append htoken (.mark h)) (.pure htoken)

theorem reads_lifetimeParam {attrs : Code} (hattrs : attrs.Closed) :
    Reads (fun p ↦ p.code.Closed) (lifetimeParam attrs) := by
  refine .bind reads_lifetime fun l hl ↦ .ofOperator? fun _ ↦ ?_
  have hparam {bounds : Code} (h : bounds.Closed) :
      (attrs ++ .lifetime l :: afterColon bounds).Closed :=
    .append hattrs (.append (.lifetimeToken hl.1 hl.2) (closed_afterColon h))
  refine .ite (.ofRest fun ts ↦ ?_) (.pure (hparam .nil))
  exact (reads_lifetimeBounds _ _).map fun _ h ↦ hparam h

theorem reads_capturedParam : Reads (fun p ↦ p.2.Closed) capturedParam := by
  refine .ofRest fun ts ↦ .ite ?_ (.ite ?_ (.want _))
  · exact reads_lifetime.map fun _ h ↦ .lifetimeToken h.1 h.2
  · exact reads_anyWord.map fun _ h ↦ .wordToken h.2

theorem reads_captureSeparator : Reads (fun _ ↦ True) captureSeparator :=
  .ofSees fun _ ↦ .ite reads_operator (.want _)

theorem reads_capture : Reads (fun c ↦ Code.Closed c ∧ Code.IsFree c) capture :=
  .ofKeyword <| .ofOperator <|
    .bind (.separated reads_captureSeparator reads_capturedParam) fun (_, trailing) h ↦
      .ofOperator (.pure ⟨.word (.angle (.lifetimesFirst h trailing)), .word⟩)

theorem code_eq_of_associated? {t : Ty} {s : Segment} (h : associated? t = some s) :
    t.code = s.code := by
  rw [associated?.eq_def] at h
  split at h
  · cases h
    simp [Ty.code, Segment.codeFront]
  · cases h

theorem reads_variadic : Reads Code.Closed variadic := by
  have hdots {c : Code} (h : c.Closed) : Reads Code.Closed (do
      operator "..."
      return c ++ Code.op "..." ++ (← operatorCode? ",")) :=
    .ofOperator ((reads_operatorCode? ",").map fun _ ↦ .append (.append h .op))
  refine .ofSees fun _ ↦ .ite (.bind reads_anyWord fun (w, _) hw ↦ .ofOperator ?_) (hdots .nil)
  exact hdots (.append (.wordToken hw.2) (.mark .nil))

/-- What the readers of nested parts yield is written as closed code. -/
structure Nested.Closed (r : Nested) : Prop where
  type : ∀ plus, Reads Ty.Closed (r.type plus)
  arguments : Reads (fun as ↦ as.code.Closed) r.arguments
  bound : ∀ captures constants, Reads Bound.Closed (r.bound captures constants)
  pattern : Reads (fun p ↦ p.code.Closed) r.pattern
  operand : ∀ structs, Reads (fun e ↦ e.code.Closed) (r.operand structs)
  climb : ∀ structs base e, e.code.Closed → Reads (fun e ↦ e.code.Closed) (r.climb structs base e)
  clause : Reads (fun e ↦ e.code.Closed) r.clause
  statements : Reads Code.Closed r.statements
  namedFields : Reads (fun fs ↦ fs.code.Closed) r.namedFields
  item : Reads (fun i ↦ i.code.Closed) r.item

namespace Nested.Closed

variable {r : Nested} (hr : r.Closed)

include hr

theorem expressionWith (structs : Bool) :
    Reads (fun e ↦ e.code.Closed) (r.expressionWith structs) :=
  .bind (hr.operand structs) fun e he ↦ hr.climb structs .least e he

theorem expression : Reads (fun e ↦ e.code.Closed) r.expression := hr.expressionWith true

theorem condition : Reads (fun e ↦ e.code.Closed) r.condition := hr.expressionWith false

/-! ## Attributes -/

theorem attributeValue : Reads Code.Closed r.attributeValue := by
  refine .bind reads_lastLiteral.attempt fun o ho ↦ ?_
  cases o with
  | some l => exact .pure (ho l rfl)
  | none =>
    refine .ofRest fun ts ↦ .ite (.ofHere fun _ ↦ .fails (.andThen (.fail _ _))) ?_
    exact hr.expression.map fun _ h ↦ h

theorem attributeForm (before : List Tree) :
    Reads (fun r ↦ r.2.Closed) (r.attributeForm before) := by
  refine .ofTrees fun ts hts ↦ ?_
  split
  · exact .dropOne hts nofun (.pure (.within (.of_lexed hts.inner) _))
  · refine .ite (fun _ ↦ .of_reads (.pure .nil) hts) fun _ ↦ .dropOne hts nofun ?_
    exact .bind hr.attributeValue.taking fun (value, taken) h ↦ .pure (.mark h.1)
  · exact .of_reads (.pure .nil) hts

theorem attributeRest {signs : List Tree} (h : AreMarks signs) :
    Reads (fun a ↦ a.code.Closed) (r.attributeRest signs) := by
  refine .bind (Reads.taking (reads_group (P := fun a ↦ a.1.Closed ∧ a.2.2.2.Closed) _ ?_)) ?_
  · refine .bind reads_attributePath.taking ?_
    rintro ⟨path, before⟩ hpath
    exact .bind (hr.attributeForm before) fun form hform ↦ .pure ⟨hpath.1, hform⟩
  · rintro ⟨⟨path, pathSpan, form, code⟩, taken⟩ hall
    exact .pure (.append (closed_signs h) (.within (.append hall.1.1.code hall.1.2) _))

theorem outerAttributes : Reads (fun as ↦ ∀ a ∈ as, a.code.Closed) r.outerAttributes :=
  .many (.bind (TakesMarks.taking takesMarks_operator) fun (_, _) hsigns ↦ hr.attributeRest hsigns)

theorem innerAttributes : Reads (fun as ↦ ∀ a ∈ as, a.code.Closed) r.innerAttributes := by
  refine .many (.bind (TakesMarks.taking ?_) fun (_, _) hsigns ↦ hr.attributeRest hsigns)
  exact .bind takesMarks_operator fun _ ↦ takesMarks_operator

theorem outerCode : Reads Code.Closed r.outerCode :=
  hr.outerAttributes.map fun _ ↦ Attribute.closed_codeAll

theorem innerCode : Reads Code.Closed r.innerCode :=
  hr.innerAttributes.map fun _ ↦ Attribute.closed_codeAll

theorem block : Reads Code.Closed r.block :=
  (reads_group _ hr.statements).map fun _ h ↦ .within h _

theorem body : Reads Code.Closed r.body := by
  refine .bind (reads_group (P := Code.Closed) _ ?_) fun _ h ↦ .pure (.within h _)
  exact .bind hr.innerCode fun _ hinner ↦ hr.statements.map fun _ ↦ .append hinner

/-! ## Paths -/

theorem segment (direct : Bool) : Reads Segment.Closed (r.segment direct) := by
  refine .ofSees fun _ ↦ .ite (reads_anyWord.map fun _ ↦ .ofName) (.ofSees fun _ ↦ ?_)
  refine .iteBind reads_anyWord reads_name fun (w, _) hw ↦ .ofSees fun _ ↦ ?_
  exact .ite (hr.arguments.map fun _ has ↦ ⟨hw, has⟩) (.pure (.ofName hw))

theorem moreSegments (direct : Bool) (go : List Tree → Bool) :
    Reads (fun ss ↦ ∀ s ∈ ss, s.Closed) (r.moreSegments direct go) :=
  .many (.ofOperator (hr.segment direct))

omit hr in
theorem splitLast {first : Segment} {more : List Segment} (hfirst : first.Closed)
    (hmore : ∀ s ∈ more, s.Closed) (rooted : Bool) :
    Path.Closed ⟨rooted, (splitLast first more).1, (splitLast first more).2⟩ := by
  rw [Path.Closed, Path.segments, segments_splitLast]
  exact List.forall_mem_cons.mpr ⟨hfirst, hmore⟩

theorem pathWith (direct : Bool) : Reads Path.Closed (r.pathWith direct) :=
  .ofOperator? fun _ ↦ .bind (hr.segment direct) fun _ hfirst ↦
    (hr.moreSegments direct _).map fun _ hmore ↦ splitLast hfirst hmore _

theorem path : Reads Path.Closed r.path := hr.pathWith true

theorem qualified (direct : Bool) :
    Reads (fun q ↦ q.1.Closed ∧ q.2.Closed) (r.qualified direct) := by
  refine .ofOperator <| .bind (hr.type true) fun t ht ↦ .ofKeyword? fun _ ↦
    .optional (P := Code.Closed) hr.path (fun p hp ↦ .word hp.code) .nil fun as has ↦
    .ofOperator <| .ofOperator <| .bind (hr.segment direct) fun first hfirst ↦
    (hr.moreSegments direct _).map fun more hmore ↦ ?_
  have hpath := splitLast hfirst hmore false
  refine ⟨.append (.append (.angle (.append ht.code has)) .op) ?_, ?_⟩
  · exact Segment.closed_codeFront fun s hs ↦ (hpath s (List.mem_append_left _ hs)).code
  · exact hpath _ (List.mem_append_right _ (List.mem_singleton_self _))

theorem expressionPath : Reads (fun r ↦ r.1.Closed) r.expressionPath := by
  refine .ofSees fun _ ↦ .ite ?_ ((hr.pathWith false).map fun _ h ↦ h.code)
  exact (hr.qualified false).map fun _ h ↦ .append h.1 h.2.code

/-! ## Bounds of parameters -/

theorem boundsFor (stop : List Tree → Bool) (n : Nat) :
    Reads (fun r ↦ ∀ b ∈ r.1, b.Closed) (r.boundsFor stop n) := by
  induction n with
  | zero => exact .noRounds
  | succ n ih =>
    refine .ofSees fun _ ↦ .ite (.pure nofun) (.bind (hr.bound false true) fun b hb ↦ ?_)
    refine .ofOperator? fun _ ↦ .ite ?_ (.pure (List.forall_mem_singleton.mpr hb))
    exact ih.map fun _ hbs ↦ List.forall_mem_cons.mpr ⟨hb, hbs⟩

theorem boundsUntil (stop : List Tree → Bool) : Reads Code.Closed (r.boundsUntil stop) :=
  .ofRest fun _ ↦ (hr.boundsFor stop _).map fun _ h ↦ Bound.closed_codeAll h _

theorem boundsTo (constants : Bool) (stop : List Tree → Bool) :
    Reads Code.Closed (r.boundsTo constants stop) :=
  (Reads.separated reads_operator (hr.bound false constants)).map fun _ h ↦
    Bound.closed_codeAll h _

/-! ## Parameters -/

theorem constantArgument : Reads Code.Closed r.constantArgument := by
  refine .ofRest fun ts ↦ .ite reads_literal <| .ite ?_ <| .ite hr.body ?_
  · exact reads_name.map fun _ h ↦ .wordToken h.2
  · exact .fails (.bind fun _ ↦ .bind fun _ ↦ .fail _ _)

theorem typeParam {attrs : Code} (hattrs : attrs.Closed) :
    Reads (fun p ↦ p.code.Closed) (r.typeParam attrs) := by
  refine .bind reads_name fun (n, _) hn ↦ .ofOperator? fun _ ↦
    .iteBind (hr.boundsUntil _) (.pure .nil) fun bounds hbounds ↦ .ofOperator? fun _ ↦
    .optional (P := Code.Closed) (hr.type true) (fun t ht ↦ .mark ht.code) .nil fun value hvalue ↦
    .pure ?_
  exact (hattrs.append (.append (.wordToken hn.2) (closed_afterColon hbounds))).append hvalue

theorem constantParam {attrs : Code} (hattrs : attrs.Closed) :
    Reads (fun p ↦ p.code.Closed) (r.constantParam attrs) := by
  refine .ofKeyword <| .bind reads_name fun (n, _) hn ↦ .ofOperator <|
    .bind (hr.type true) fun t ht ↦ .ofOperator? fun _ ↦
    .optional (P := Code.Closed) hr.constantArgument (fun c hc ↦ .mark hc) .nil fun value hvalue ↦
    .pure ?_
  exact .append (hattrs.append (.word (.append (.wordToken hn.2) (.mark ht.code)))) hvalue

theorem genericParam (bound : Bool) : Reads (fun p ↦ p.code.Closed) (r.genericParam bound) := by
  refine .bind hr.outerCode fun attrs hattrs ↦ .ofRest fun ts ↦ ?_
  refine .ite (reads_lifetimeParam hattrs) <| .ite (hr.typeParam hattrs) <|
    .ite (hr.constantParam hattrs) <| .ite ?_ <| .ite (.want _) (.want _)
  exact .andThen reads_anyWord fun _ ↦ .pure (hattrs.append (.word .nil))

theorem genericParams (bound : Bool) :
    Reads (fun r ↦ ∀ p ∈ r.1, p.code.Closed) (r.genericParams bound) :=
  .ofOperator <| .bind (.separated reads_operator (hr.genericParam bound)) fun _ h ↦
    .ofOperator (.pure h)

theorem binder? : Reads (fun o ↦ ∀ c ∈ o, Code.Closed c) r.binder? := by
  refine .ofKeyword? fun _ ↦
    .ite (.bind (hr.genericParams true) fun (params, _) h ↦ ?_) (.pure nofun)
  refine .pure (forall_mem_some (.word (.angle (.commas (fun c hc ↦ ?_) _))))
  obtain ⟨p, hp, rfl⟩ := List.mem_map.mp hc
  exact h p hp

theorem generics : Reads (fun g ↦ g.code.Closed) r.generics := by
  refine .ofSees fun _ ↦ .ite ?_ (.pure .nil)
  refine .bind (hr.genericParams false).taking fun ((params, trailing), _) h ↦ .pure ?_
  refine .ite .nil (.angle (.lifetimesFirst (fun c hc ↦ ?_) _))
  obtain ⟨p, hp, rfl⟩ := List.mem_map.mp hc
  exact h.1 p hp

/-! ## Clauses -/

theorem predicate : Reads Code.Closed r.predicate := by
  refine .ofRest fun ts ↦ .ite (.bind reads_lifetime fun l hl ↦ .ofOperator ?_) ?_
  · exact (reads_lifetimeBounds _ _).map fun _ h ↦ .append (.lifetimeToken hl.1 hl.2) (.mark h)
  · refine .bind hr.binder? fun lifetimes hlifetimes ↦ .bind (hr.type true) fun t ht ↦
      .ofOperator ((hr.boundsUntil _).map fun _ h ↦ ?_)
    exact .append (.append (.getD hlifetimes) ht.code) (.mark h)

theorem predicates (n : Nat) : Reads Code.Closed (r.predicates n) := by
  induction n with
  | zero => exact .noRounds
  | succ n ih =>
    refine .ofSees fun _ ↦ .ite (.pure .nil) (.bind hr.predicate fun p hp ↦ ?_)
    exact .ofOperator? fun _ ↦ .ite (ih.map fun _ h ↦ hp.append (.mark h)) (.pure hp)

theorem whereClause? : Reads (fun o ↦ ∀ c ∈ o, Code.Closed c) r.whereClause? := by
  refine .ofKeyword? fun _ ↦ .ite (.ofSees fun _ ↦ ?_) (.pure nofun)
  refine .ite (.ofHere fun _ ↦ .fails (.andThen (.fail _ _))) (.ofRest fun ts ↦ ?_)
  exact (hr.predicates _).map fun _ ↦ forall_mem_some

/-! ## Bounds -/

theorem functionArguments : Reads Code.Closed r.functionArguments := by
  refine .bind (reads_group _ (.commaList (hr.type true))) fun (inputs, trailing) h ↦ ?_
  have hargs : (Code.within .parens (Code.commas (inputs.map Ty.code) trailing)).Closed := by
    refine .within (.commas (fun c hc ↦ ?_) _) _
    obtain ⟨t, ht, rfl⟩ := List.mem_map.mp hc
    exact (h t ht).code
  refine .ofOperator? fun _ ↦ .ite ?_ (.pure hargs)
  exact (hr.type false).map fun t ht ↦ .append (hargs.append .op) ht.code

omit hr in
theorem constMark (constants : Bool) : Reads (fun _ ↦ True) (constMark constants) := by
  refine .ofSees fun _ ↦ .ite (.andThen (reads_group _ (reads_keyword _)).taking fun _ ↦ ?_) ?_
  · exact .ite (.fails (.andThen (.fail _ _))) (.pure trivial)
  · refine .ofSees fun _ ↦ .ite (.andThen reads_anyWord fun _ ↦ ?_) (.pure trivial)
    exact .ite (.fails (.andThen (.fail _ _))) (.pure trivial)

theorem traitPath : Reads Code.Closed r.traitPath := by
  refine .bind hr.path fun p hp ↦ .ofRest fun ts ↦ .ite ?_ (.pure hp.code)
  refine .ofOperator? fun _ ↦ hr.functionArguments.map fun args hargs ↦ .append ?_ hargs
  have hbare : Path.Closed { p with last := ⟨p.last.name, .none⟩ } := by
    intro s hs
    rw [Path.segments, List.mem_append, List.mem_singleton] at hs
    obtain hs | rfl := hs
    · exact hp s (List.mem_append_left _ hs)
    · exact .ofName (hp p.last (List.mem_append_right _ (List.mem_singleton_self _))).name
  exact hbare.code

theorem traitBound (constants : Bool) : Reads (fun r ↦ r.1.Closed) (r.traitBound constants) := by
  refine .bind hr.binder? fun lifetimes hlifetimes ↦ .andThen (constMark constants) fun isConst ↦
    .ofHere fun place ↦ .ofOperator? fun relaxed ↦
    .iteBind hr.binder? (.pure nofun) fun later hlater ↦ .bind hr.traitPath fun path hpath ↦
    .ite (.fails (.andThen (.fail _ _))) (.pure ?_)
  refine .append (.append (.ite (.mark .nil) .nil) (.getD fun c hc ↦ ?_)) hpath
  obtain hc | ⟨-, hc⟩ := Option.or_eq_some_iff.mp hc
  · exact hlifetimes c hc
  · exact hlater c hc

theorem traitBoundOf (constants : Bool) : Reads Bound.Closed (r.traitBoundOf constants) := by
  refine .ofSees fun parens ↦ .bind (Reads.taking (P := fun r ↦ r.1.Closed) ?_)
    fun ((code, isConst), taken) h ↦ ?_
  · exact .ite (reads_group _ (hr.traitBound constants)) (hr.traitBound constants)
  · exact .ite (.pure (.ofTrait (.of_lexed h.2) _)) (.pure (.ofTrait h.1 _))

theorem boundOf (captures constants : Bool) :
    Reads Bound.Closed (r.boundOf captures constants) := by
  refine .ofTrees fun ts hts ↦ ?_
  split
  · have htoken := Code.Closed.lifetimeToken hts.isWord_lifetime.1 hts.isWord_lifetime.2
    exact .dropOne hts nofun (.pure ⟨htoken, fun _ ↦ ⟨rfl, .lifetime⟩⟩)
  · refine .of_reads (.bind reads_capture.taking fun (code, taken) h ↦ ?_) hts
    exact .ite (.fails (.andThen (.fail _ _))) (.pure ⟨h.1.1, fun _ ↦ ⟨rfl, h.1.2⟩⟩)
  · exact .of_reads (hr.traitBoundOf constants) hts

theorem boundListFor (plus captures constants : Bool) (n : Nat) :
    Reads (fun r ↦ ∀ b ∈ r.1, b.Closed) (r.boundListFor plus captures constants n) := by
  induction n with
  | zero => exact .noRounds
  | succ n ih =>
    refine .bind (hr.bound captures constants) fun b hb ↦ ?_
    have hone : ∀ b' ∈ [b], b'.Closed := List.forall_mem_singleton.mpr hb
    refine .ofSees fun _ ↦ .ite (.ofOperator (.ofSees fun _ ↦ .ite ?_ (.pure hone))) (.pure hone)
    exact ih.map fun _ hbs ↦ List.forall_mem_cons.mpr ⟨hb, hbs⟩

theorem boundList (plus captures constants : Bool) :
    Reads (fun r ↦ ∀ b ∈ r.1, b.Closed) (r.boundList plus captures constants) :=
  .ofRest fun _ ↦ hr.boundListFor plus captures constants _

/-! ## Arguments in angle brackets -/

theorem associatedValue : Reads Code.Closed r.associatedValue :=
  .ofRest fun _ ↦ .ite hr.constantArgument ((hr.type true).map fun _ h ↦ h.code)

theorem argument : Reads (fun a ↦ a.code.Closed) r.argument := by
  refine .ofRest fun ts ↦ .ite (reads_lifetime.map fun _ h ↦ ?_) (.ite ?_ ?_)
  · simpa [Arg.code] using Code.Closed.lifetimeToken h.1 h.2
  · exact hr.constantArgument.map fun _ h ↦ by simpa [Arg.code] using h
  · refine .bind (hr.type true) fun t ht ↦ ?_
    have htype : (Arg.type t).code.Closed := by simpa [Arg.code] using ht.code
    split
    · exact .pure htype
    next s hs =>
      have hsegment : s.code.Closed := code_eq_of_associated? hs ▸ ht.code
      refine .ofOperator? fun _ ↦ .ite (hr.associatedValue.map fun _ h ↦ ?_) ?_
      · simpa [Arg.code] using Code.Closed.append hsegment (.mark h)
      refine .ofOperator? fun _ ↦ .ite ((hr.boundsUntil _).map fun _ h ↦ ?_) (.pure htype)
      simpa [Arg.code] using Code.Closed.append hsegment (.mark h)

theorem argumentsAfter (turbofish : Bool) :
    Reads (fun as ↦ as.code.Closed) (r.argumentsAfter turbofish) :=
  .ofOperator <| .bind (.separated reads_operator hr.argument) fun (args, trailing) h ↦
    .ofOperator (.pure (Args.closed_angle h turbofish _))

theorem argumentsOf : Reads (fun as ↦ as.code.Closed) r.argumentsOf :=
  .ofOperator? fun turbofish ↦ hr.argumentsAfter turbofish

/-! ## Function pointers -/

/-- What a parameter of a function pointer is after its name; `mut self` is kept as it is
written. -/
theorem pointerParameterRest (first named self : Bool) {name : Code} (hname : name.Closed) :
    Reads (fun o ↦ ∀ c ∈ o, Code.Closed c) (do
      if named && (← sees fun ts ↦
          first && Ahead.word "mut" ts && Ahead.word "self" (ts.drop 1)) then
        drop 2
        return none
      else if self then
        keyword "self"
        return none
      else return some (name ++ (← r.type true).code)) := by
  refine .ofTest fun ts hts ↦ .ite (fun h ↦ ?_) fun _ ↦ .of_reads ?_ hts
  · simp only [Bool.and_eq_true] at h
    obtain ⟨s, more, rfl⟩ := Ahead.exists_of_word h.2.1.2
    obtain ⟨s', more, rfl⟩ := Ahead.exists_of_word h.2.2
    exact .drop [.word "mut" s, .word "self" s'] hts
      (.append (hts.head nofun) (hts.tail.head nofun)) (.pure nofun)
  · refine .ite (.ofKeyword (.pure nofun)) ((hr.type true).map fun t ht ↦ ?_)
    exact forall_mem_some (hname.append ht.code)

theorem pointerParameter (first : Bool) : Reads Code.Closed (r.pointerParameter first) := by
  refine .ofTest fun ts hts ↦ .bind hts
    (ReadsFrom.taking (P := fun o ↦ ∀ c ∈ o, Code.Closed c) ?_)
    fun (code, taken) h ↦ .pure (.ite (.of_lexed h.2) ?_)
  · refine .dropWord hts (w := "mut") (fun h ↦ ?_) (.ofRest fun ts ↦ ?_)
    · simp_all
    · have hrest := hr.pointerParameterRest first
      refine .ite (.bind reads_anyWord fun (w, _) hw ↦ .ofOperator ?_) (hrest _ _ .nil)
      exact hrest _ _ (.append (.wordToken hw.2) (.mark .nil))
  · cases code with
    | none => exact .of_lexed h.2
    | some c => exact h.1 c rfl

theorem pointerParametersFor (first : Bool) (n : Nat) :
    Reads (fun r ↦ (∀ c ∈ r.1, Code.Closed c) ∧ ∀ c ∈ r.2.2, Code.Closed c)
      (r.pointerParametersFor first n) := by
  induction n generalizing first with
  | zero => exact .noRounds
  | succ n ih =>
    refine .ofSees fun _ ↦ .ite (.pure ⟨nofun, nofun⟩) (.bind hr.outerCode fun attrs hattrs ↦ ?_)
    refine .ofSees fun _ ↦ .ite (reads_variadic.map fun v hv ↦ ⟨nofun, ?_⟩) ?_
    · exact forall_mem_some (hattrs.append hv)
    refine .bind (hr.pointerParameter first) fun p hp ↦ .ofSees fun _ ↦ .ite ?_ ?_
    · exact .pure ⟨List.forall_mem_singleton.mpr (hattrs.append hp), nofun⟩
    · refine .ofOperator ((ih false).map fun r h ↦ ⟨?_, h.2⟩)
      exact List.forall_mem_cons.mpr ⟨hattrs.append hp, h.1⟩

theorem pointerParameters : Reads Code.Closed r.pointerParameters :=
  .ofRest fun _ ↦ (hr.pointerParametersFor true _).map fun _ h ↦
    .append (.commas h.1 _) (.getD h.2)

theorem functionPointer : Reads Code.Closed r.functionPointer := by
  refine .bind (reads_keywordCode? "unsafe") fun safety hsafety ↦
    .bind reads_abi fun convention hconvention ↦ .ofKeyword <|
    .bind (reads_group _ hr.pointerParameters) fun params hparams ↦ ?_
  have hhead : (safety ++ convention ++ .word "fn" :: Code.within .parens params : Code).Closed :=
    .append (hsafety.append hconvention) (.word (hparams.within _))
  refine .ofOperator? fun _ ↦ .ite ((hr.type false).map fun t ht ↦ ?_) (.pure hhead)
  exact .append (hhead.append .op) ht.code

/-! ## Trait objects -/

theorem objectOf (isDyn : Bool) (start : Span) (plus : Bool) :
    Reads Ty.Closed (r.objectOf isDyn start plus) := by
  refine .bind (hr.boundList plus false false) fun (bs, trailing) h ↦ ?_
  dsimp only
  split
  · exact .fail _ _
  · exact .pure (.object h)

theorem plusBounds : Reads (fun bs ↦ ∀ b ∈ bs, b.Closed) r.plusBounds :=
  .many (.ofOperator (hr.bound false false))

theorem dynType (plus : Bool) : Reads Ty.Closed (r.dynType plus) := by
  refine .ofHere fun start ↦ .bind (Reads.taking (P := fun s ↦ s.2.Closed) ?_)
    fun ((star, t), taken) h ↦ .pure ?_
  · exact .ofKeyword (.ofOperator? fun _ ↦ (hr.objectOf true start plus).map fun _ ht ↦ ht)
  · cases star with
    | false => exact h.1
    | true => exact .other (.of_lexed h.2)

theorem implType (plus : Bool) : Reads Ty.Closed (r.implType plus) := by
  refine .ofHere fun start ↦ .ofKeyword <|
    .bind (hr.boundList plus true true) fun (bs, trailing) h ↦ ?_
  dsimp only
  split
  · exact .fail _ _
  · exact .pure (.other (.word (Bound.closed_codeAll h trailing)))

/-! ## Parentheses and brackets -/

theorem parenthesised : Reads Parenthesised.Closed r.parenthesised := by
  refine .ofRest fun ts ↦ .ite (.pure nofun) (.ite (.ofHere fun start ↦ ?_) (.ite ?_ ?_))
  · exact (hr.objectOf false start true).map fun _ h ↦ h
  · exact (hr.traitBound false).map fun _ h ↦ h
  · refine .bind (hr.type true) fun first hfirst ↦ .ofOperator? fun _ ↦ .ite ?_ (.pure hfirst)
    exact (Reads.commaList (hr.type true)).map fun more hmore ↦
      List.forall_mem_cons.mpr ⟨hfirst, hmore⟩

theorem parenType (plus : Bool) : Reads Ty.Closed (r.parenType plus) := by
  have hobject {b : Bound} (hb : b.Closed) : Reads Ty.Closed
      (do return Ty.object false (b :: (← r.plusBounds)) false) :=
    hr.plusBounds.map fun _ hbs ↦ .object (List.forall_mem_cons.mpr ⟨hb, hbs⟩)
  refine .bind (reads_group _ hr.parenthesised) fun inside h ↦ ?_
  cases inside with
  | tuple elems trailing => exact .pure (.tuple h trailing)
  | object t => exact .pure (.paren h)
  | relaxed code => exact hobject (.ofTrait h true)
  | single t =>
    dsimp only
    cases hb : asBound? t with
    | none => exact .pure (.paren h)
    | some b => exact .ofSees fun _ ↦ .ite (hobject (h.asBound hb).1) (.pure (.paren h))

theorem bracketType : Reads Ty.Closed r.bracketType := by
  refine reads_group _ (.bind (hr.type true) fun elem helem ↦ .ofOperator? fun _ ↦ .ite ?_ ?_)
  · exact hr.expression.map fun length hlength ↦ .array helem hlength
  · exact .pure (.slice helem)

/-! ## Types -/

theorem pathType {lifetimes : Option Code} (hl : ∀ c ∈ lifetimes, Code.Closed c) (plus : Bool) :
    Reads Ty.Closed (r.pathType lifetimes plus) := by
  refine .bind hr.path fun p hp ↦ .ofSees fun _ ↦
    .ite (reads_macroRest.map fun _ hargs ↦ .other (hp.code.append hargs)) (.ofSees fun _ ↦ ?_)
  have hfirst : Bound.Closed ⟨lifetimes.getD [] ++ p.code, false, none⟩ :=
    .ofTrait (.append (.getD hl) hp.code) false
  have hone : ∀ b ∈ [(⟨lifetimes.getD [] ++ p.code, false, none⟩ : Bound)], b.Closed :=
    List.forall_mem_singleton.mpr hfirst
  refine .ite (.ofSees fun _ ↦ .ite (.ofOperator (.ofSees fun _ ↦ .ite ?_ ?_)) ?_) (.pure hp.toTy)
  · exact (hr.boundList true false false).map fun _ h ↦
      .object (List.forall_mem_cons.mpr ⟨hfirst, h⟩)
  · exact .pure (.object hone)
  · exact .pure (.object hone)

theorem pointerType : Reads Ty.Closed r.pointerType := by
  refine .ofOperator (.ofSees fun _ ↦ .ite (.fails (.andThen (.want _))) ?_)
  exact .bind reads_anyWord fun (w, _) hw ↦ (hr.type false).map fun t ht ↦
    .other (.mark (.append (.wordToken hw.2) ht.code))

theorem referenceType : Reads Ty.Closed r.referenceType :=
  .ofOperator <| .bind reads_lifetime? fun l hl ↦ .ofKeyword? fun isMut ↦
    (hr.type false).map fun t ht ↦ .reference hl isMut ht

theorem typeAfter {lifetimes : Option Code} (hl : ∀ c ∈ lifetimes, Code.Closed c) (plus : Bool) :
    Reads Ty.Closed (r.typeAfter lifetimes plus) := by
  refine .ofRest fun ts ↦ .ite (hr.parenType _) <| .ite ?_ <| .ite ?_ <| .ite ?_ <|
    .ite (hr.pathType hl _) <| .ite (hr.dynType _) <| .ite hr.bracketType <|
    .ite hr.pointerType <| .ite hr.referenceType <|
    .ite (.ofOperator (.pure (.other (.mark .nil)))) <| .ite (hr.implType _) <|
    .ite (.andThen reads_anyWord fun _ ↦ .pure (.other (.word .nil))) <|
    .ite (.ofHere fun _ ↦ hr.objectOf _ _ _) (.want _)
  · exact hr.functionPointer.map fun _ h ↦ .other (.append (.getD hl) h)
  · exact reads_builtIn.map fun _ h ↦ .other (.append (.getD hl) h)
  · exact (hr.qualified true).map fun _ h ↦ .qualified h.1 h.2

theorem typeOf (plus : Bool) : Reads Ty.Closed (r.typeOf plus) := by
  refine .bind hr.binder? fun lifetimes hl ↦ .ofSees fun _ ↦ ?_
  exact .ite (.fails (.andThen (.want _))) (hr.typeAfter hl plus)

end Nested.Closed

end Grammar

end TypedIds
