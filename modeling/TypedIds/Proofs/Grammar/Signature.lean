import TypedIds.Proofs.Default.Parentheses
import TypedIds.Proofs.Grammar.Form

/-!
# Types in signatures

The types in a signature that is read are types that are read, each of them wherever it stands.  So
is what a type that is read holds in angle brackets, whatever parentheses are around the type: that
is what is asked for of a `Result`.

* `Grammar.endsRead_type` — the arguments of the last name of a type are read, by induction on how
  deeply the type is nested.
* **`Ty.IsRead.argument`**: what a type that is read holds is read.
* **`Grammar.isRead_signature`**: the types of parameters, and what is yielded, are read.
-/

set_option autoImplicit false

namespace TypedIds

/-- An argument in angle brackets is read if it is a type. -/
def Arg.IsRead : Arg → Prop
  | .type t => t.IsRead
  | .lifetime _ | .other _ => True

/-- The types among the arguments of a name are read. -/
def Args.AreRead : Args → Prop
  | .none => True
  | .angle _ args _ => ∀ a ∈ args, a.IsRead

/-- The types among the arguments of the last name of a type are read. -/
def Ty.EndsRead (t : Ty) : Prop := ∀ s ∈ t.strip.lastSegment?, s.args.AreRead

namespace Ty.EndsRead

theorem of_none {t : Ty} (h : t.strip.lastSegment? = none) : t.EndsRead := by
  rw [EndsRead, h]
  nofun

theorem of_last {t : Ty} {s : Segment} (h : t.strip.lastSegment? = some s)
    (hs : s.args.AreRead) : t.EndsRead := by
  rw [EndsRead, h]
  exact forall_mem_some hs

theorem object {isDyn trailing : Bool} {bs : List Bound} : (Ty.object isDyn bs trailing).EndsRead :=
  of_none rfl

theorem other {form : TypeForm} {code : Code} : (Ty.other form code).EndsRead := of_none rfl

end Ty.EndsRead

/-- The type of a parameter is read, if it is no receiver. -/
def Param.IsRead : Param → Prop
  | .typed _ _ t => t.IsRead
  | .receiver _ => True

/-- The types in a signature are read. -/
def Signature.IsRead (s : Signature) : Prop :=
  (∀ p ∈ s.params, p.IsRead) ∧ ∀ t ∈ s.output, t.IsRead

namespace Grammar

open Reader

/-- What stands in parentheses ends in arguments that are read, if the parentheses mean nothing. -/
def Parenthesised.EndsRead : Parenthesised → Prop
  | .object t | .single t => t.EndsRead
  | .tuple .. | .relaxed _ => True

/-- The type of a parameter is read, if it is no receiver. -/
def Parameter.IsRead : Parameter → Prop
  | .typed _ t => t.IsRead
  | .receiver .. | .variadic _ => True

theorem isRead_type (depth : Nat) (plus : Bool) :
    Reads Ty.IsRead ((nestedTo depth).type plus) := by
  intro c t next hc h
  exact ⟨⟨depth, plus, c, next, hc, h⟩, (reads_type depth plus c t next hc h).2⟩

namespace Nested.Closed

variable {r : Nested} (hr : r.Closed)

include hr

/-! ## Arguments in angle brackets -/

section

variable (hread : ∀ plus, Reads Ty.IsRead (r.type plus))

include hread

theorem areRead_argument : Reads Arg.IsRead r.argument := by
  refine .ofRest fun ts ↦ .ite (reads_lifetime.map fun _ _ ↦ trivial) <|
    .ite (hr.constantArgument.map fun _ _ ↦ trivial) <| .bind (hread true) fun t ht ↦ ?_
  split
  · exact .pure ht
  · refine .ofOperator? fun _ ↦ .ite (hr.associatedValue.map fun _ _ ↦ trivial) ?_
    exact .ofOperator? fun _ ↦ .ite ((hr.boundsUntil _).map fun _ _ ↦ trivial) (.pure ht)

theorem areRead_argumentsOf : Reads Args.AreRead r.argumentsOf :=
  .ofOperator? fun _ ↦ .ofOperator <|
    .bind (.separated reads_operator (hr.areRead_argument hread)) fun (_, _) h ↦
      .ofOperator (.pure h)

/-! ## Signatures -/

theorem isRead_parameter : Reads Parameter.IsRead r.parameter := by
  refine .bind hr.receiver.attempt fun o _ ↦ ?_
  split
  · exact .pure trivial
  · refine .ofRest fun ts ↦ .ite ((hread true).map fun _ ht ↦ ht) ?_
    refine .bind hr.pattern fun p _ ↦ .ofOperator (.ofOperator? fun _ ↦ .ite (.pure trivial) ?_)
    exact (hread true).map fun _ ht ↦ ht

omit hr hread in
theorem isRead_variadicEnd (code : Code) :
    Reads (fun r ↦ ∀ p ∈ r.1, p.IsRead) (variadicEnd code) :=
  .ofSees fun _ ↦ .ite (.pure nofun) (.ofOperator (.pure nofun))

theorem isRead_paramsFor (first self : Bool) (n : Nat) :
    Reads (fun r ↦ ∀ p ∈ r.1, p.IsRead) (r.paramsFor first self n) := by
  induction n generalizing first self with
  | zero =>
    rw [Nested.paramsFor]
    exact .noRounds
  | succ n ih =>
    have hgo {p : Param} (hp : p.IsRead) (self : Bool) :
        Reads (fun r ↦ ∀ p ∈ r.1, p.IsRead) (paramsFor.go r n p self) := by
      rw [paramsFor.go]
      refine .ofSees fun _ ↦ .ite (.pure (List.forall_mem_singleton.mpr hp)) (.ofOperator ?_)
      exact (ih false self).map fun _ hps ↦ List.forall_mem_cons.mpr ⟨hp, hps⟩
    rw [Nested.paramsFor]
    refine .ofSees fun _ ↦ .ite (.pure (List.forall_mem_nil _)) (.bind hr.outerCode fun attrs _ ↦ ?_)
    refine .ofOperator? fun _ ↦ .ite (isRead_variadicEnd _) ?_
    refine .bind (hr.isRead_parameter hread) fun p hp ↦ ?_
    cases p with
    | variadic code => exact isRead_variadicEnd _
    | receiver code place =>
      refine .ite (.fails (.andThen (.fail _ _))) (.ite (.fails (.andThen (.fail _ _))) ?_)
      exact hgo (p := .receiver _) trivial true
    | typed p t => exact hgo (p := .typed _ _ _) hp self

theorem isRead_signature : Reads Signature.IsRead r.signature := by
  refine .bind (P := fun s ↦ s.1.IsRead) ?_ fun _ hs ↦ .pure hs
  refine .ofKeyword? fun isConst ↦ .ofKeyword? fun isAsync ↦ .ofKeyword? fun isUnsafe ↦
    .iteBind (.keyword? "safe") (.pure trivial) fun isSafe _ ↦ .bind reads_abi fun abi _ ↦
    .ofKeyword <| .bind reads_name fun (n, _) _ ↦ .bind hr.generics fun generics _ ↦
    .bind (reads_group _ (.ofRest fun _ ↦ hr.isRead_paramsFor hread true false _))
      fun (params, trailing, variadic) hparams ↦ .ofOperator? fun _ ↦
    .optional (P := fun o ↦ ∀ t ∈ o, t.IsRead) (hread true) ?_ nofun
      fun output houtput ↦ hr.whereClause?.map fun _ _ ↦ ⟨hparams, houtput⟩
  exact fun t ht ↦ forall_mem_some ht

end

/-! ## The last name of a type -/

section

variable (hargs : Reads Args.AreRead r.arguments)

include hargs

omit hr in
theorem areRead_segment (direct : Bool) : Reads (fun s ↦ s.args.AreRead) (r.segment direct) := by
  refine .ofSees fun _ ↦ .ite (reads_anyWord.map fun _ _ ↦ trivial) (.ofSees fun _ ↦ ?_)
  refine .iteBind reads_anyWord reads_name fun (w, _) _ ↦ .ofSees fun _ ↦ ?_
  exact .ite (hargs.map fun _ has ↦ has) (.pure trivial)

omit hr in
theorem areRead_moreSegments (direct : Bool) (go : List Tree → Bool) :
    Reads (fun ss ↦ ∀ s ∈ ss, s.args.AreRead) (r.moreSegments direct go) :=
  .many (.ofOperator (areRead_segment hargs direct))

omit hr hargs in
theorem areRead_splitLast {first : Segment} {more : List Segment} (hfirst : first.args.AreRead)
    (hmore : ∀ s ∈ more, s.args.AreRead) : (Grammar.splitLast first more).2.args.AreRead := by
  have hsegments : ∀ s ∈ first :: more, s.args.AreRead := List.forall_mem_cons.mpr ⟨hfirst, hmore⟩
  rw [← segments_splitLast] at hsegments
  exact hsegments _ (List.mem_append_right _ (List.mem_singleton_self _))

omit hr in
theorem areRead_path : Reads (fun p ↦ p.last.args.AreRead) r.path :=
  .ofOperator? fun _ ↦ .bind (areRead_segment hargs true) fun _ hfirst ↦
    (areRead_moreSegments hargs true _).map fun _ hmore ↦ areRead_splitLast hfirst hmore

theorem endsRead_qualified :
    Reads (fun q ↦ q.2.args.AreRead) (r.qualified true) :=
  .ofOperator <| .andThen (hr.type true) fun _ ↦ .ofKeyword? fun _ ↦
    .optional (P := fun _ ↦ True) hr.path (fun _ _ ↦ trivial) trivial fun _ _ ↦
    .ofOperator <| .ofOperator <| .bind (areRead_segment hargs true) fun _ hfirst ↦
    (areRead_moreSegments hargs true _).map fun _ hmore ↦ areRead_splitLast hfirst hmore

theorem endsRead_pathType (lifetimes : Option Code) (plus : Bool) :
    Reads Ty.EndsRead (r.pathType lifetimes plus) := by
  refine .bind (areRead_path hargs) fun p hp ↦ .ofSees fun _ ↦
    .ite (reads_macroRest.map fun _ _ ↦ .other) (.ofSees fun _ ↦ ?_)
  refine .ite (.ofSees fun _ ↦ .ite (.ofOperator (.ofSees fun _ ↦ .ite ?_ ?_)) ?_)
    (.pure (.of_last rfl hp))
  · exact (hr.boundList true false false).map fun _ _ ↦ .object
  · exact .pure .object
  · exact .pure .object

end

theorem endsRead_objectOf (isDyn : Bool) (start : Span) (plus : Bool) :
    Reads Ty.EndsRead (r.objectOf isDyn start plus) := by
  refine .andThen (hr.boundList plus false false) fun (bs, trailing) ↦ ?_
  dsimp only
  split
  · exact .fail _ _
  · exact .pure .object

theorem endsRead_dynType (plus : Bool) : Reads Ty.EndsRead (r.dynType plus) := by
  refine .ofHere fun start ↦ .bind (Reads.taking (P := fun s ↦ s.2.EndsRead) ?_)
    fun ((star, t), taken) h ↦ .pure ?_
  · exact .ofKeyword (.ofOperator? fun _ ↦ (hr.endsRead_objectOf true start plus).map fun _ ht ↦ ht)
  · cases star with
    | false => exact h.1
    | true => exact .other

theorem endsRead_implType (plus : Bool) : Reads Ty.EndsRead (r.implType plus) := by
  refine .ofHere fun start ↦ .ofKeyword <|
    .andThen (hr.boundList plus true true) fun (bs, trailing) ↦ ?_
  dsimp only
  split
  · exact .fail _ _
  · exact .pure .other

theorem endsRead_bracketType : Reads Ty.EndsRead r.bracketType :=
  reads_group _ <| .andThen (hr.type true) fun _ ↦ .ofOperator? fun _ ↦
    .ite (hr.expression.map fun _ _ ↦ .of_none rfl) (.pure (.of_none rfl))

theorem endsRead_pointerType : Reads Ty.EndsRead r.pointerType :=
  .ofOperator <| .ofSees fun _ ↦ .ite (.fails (.andThen (.want _))) <|
    .andThen reads_anyWord fun (_, _) ↦ (hr.type false).map fun _ _ ↦ .other

theorem endsRead_referenceType : Reads Ty.EndsRead r.referenceType :=
  .ofOperator <| .andThen reads_lifetime? fun _ ↦ .ofKeyword? fun _ ↦
    (hr.type false).map fun _ _ ↦ .of_none rfl

section

variable (hargs : Reads Args.AreRead r.arguments) (hends : ∀ plus, Reads Ty.EndsRead (r.type plus))

include hends

theorem endsRead_parenthesised : Reads Parenthesised.EndsRead r.parenthesised := by
  refine .ofRest fun ts ↦ .ite (.pure trivial) (.ite (.ofHere fun start ↦ ?_) (.ite ?_ ?_))
  · exact (hr.endsRead_objectOf false start true).map fun _ h ↦ h
  · exact (hr.traitBound false).map fun _ _ ↦ trivial
  · refine .bind (hends true) fun first hfirst ↦ .ofOperator? fun _ ↦ .ite ?_ (.pure hfirst)
    exact (Reads.commaList (hr.type true)).map fun _ _ ↦ trivial

theorem endsRead_parenType (plus : Bool) : Reads Ty.EndsRead (r.parenType plus) := by
  have hobject (b : Bound) :
      Reads Ty.EndsRead (do return Ty.object false (b :: (← r.plusBounds)) false) :=
    hr.plusBounds.map fun _ _ ↦ .object
  refine .bind (reads_group _ (hr.endsRead_parenthesised hends)) fun inside h ↦ ?_
  cases inside with
  | tuple elems trailing => exact .pure (.of_none rfl)
  | object t => exact .pure h
  | relaxed code => exact hobject _
  | single t =>
    dsimp only
    split
    · exact .pure h
    · exact .ofSees fun _ ↦ .ite (hobject _) (.pure h)

include hargs

theorem endsRead_typeOf (plus : Bool) : Reads Ty.EndsRead (r.typeOf plus) := by
  refine .andThen hr.binder? fun lifetimes ↦ .ofSees fun _ ↦ .ite (.fails (.andThen (.want _))) ?_
  refine .ofRest fun ts ↦ .ite (hr.endsRead_parenType hends _) <|
    .ite (hr.functionPointer.map fun _ _ ↦ .other) <| .ite (reads_builtIn.map fun _ _ ↦ .other) <|
    .ite ((hr.endsRead_qualified hargs).map fun _ ↦ .of_last rfl) <|
    .ite (hr.endsRead_pathType hargs _ _) <| .ite (hr.endsRead_dynType _) <|
    .ite hr.endsRead_bracketType <| .ite hr.endsRead_pointerType <|
    .ite hr.endsRead_referenceType <| .ite (.ofOperator (.pure .other)) <|
    .ite (hr.endsRead_implType _) <| .ite (.andThen reads_anyWord fun _ ↦ .pure .other) <|
    .ite (.ofHere fun _ ↦ hr.endsRead_objectOf _ _ _) (.want _)

end

end Nested.Closed

/-! ## Parts that are nested to any depth -/

theorem areRead_arguments : ∀ depth, Reads Args.AreRead (nestedTo depth).arguments
  | 0 => .noRounds
  | depth + 1 => (Nested.closed_nestedTo depth).areRead_argumentsOf (isRead_type depth)

/-- The arguments of the last name of a type are read, however deeply it is nested. -/
theorem endsRead_type (depth : Nat) (plus : Bool) :
    Reads Ty.EndsRead ((nestedTo depth).type plus) := by
  induction depth generalizing plus with
  | zero => exact .noRounds
  | succ depth ih =>
    exact (Nested.closed_nestedTo depth).endsRead_typeOf (areRead_arguments depth) ih plus

/-- **The types in a signature that is read are read.** -/
theorem isRead_signature (depth : Nat) : Reads Signature.IsRead (nestedTo depth).signature :=
  (Nested.closed_nestedTo depth).isRead_signature (isRead_type depth)

end Grammar

/-- **What a type that is read holds in angle brackets is read**, whatever parentheses are around
the type. -/
theorem Ty.IsRead.argument {t u : Ty} {name : String} (h : t.IsRead)
    (hu : t.strip.argumentOf? name = some u) : u.IsRead := by
  obtain ⟨depth, plus, c, next, hc, hread⟩ := h
  obtain ⟨turbofish, more, trailing, hlast⟩ := argumentOf?_eq_some_iff.mp hu
  have hargs : Args.AreRead (.angle turbofish (.type u :: more) trailing) :=
    (Grammar.endsRead_type depth plus c t next hc hread).1 _ hlast
  exact hargs (.type u) List.mem_cons_self

end TypedIds
