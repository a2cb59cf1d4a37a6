import TypedIds.Grammar.Source
import TypedIds.Proofs.Grammar.Closed.Expression

/-!
# Items are closed

What the readers of signatures, structs and other items yield is closed code, if that is so of the
readers of nested parts.  So it is of the readers of parts that are nested to any depth.

**`Grammar.Nested.closed_nestedTo`** says so of all of them at once.
-/

set_option autoImplicit false

namespace TypedIds

/-! ## Parts of items -/

theorem Signature.closed_paramsCode {s : Signature} (hparams : ∀ p ∈ s.params, p.code.Closed)
    (hvariadic : ∀ c ∈ s.variadic, Code.Closed c) : s.paramsCode.Closed := by
  have hwritten : (Code.commas (s.params.map Param.code) s.trailing).Closed := by
    refine .commas (fun c hc ↦ ?_) _
    obtain ⟨p, hp, rfl⟩ := List.mem_map.mp hc
    exact hparams p hp
  rw [paramsCode]
  cases h : s.variadic with
  | none => exact hwritten
  | some v => exact .append (hwritten.append (.ite .nil (.mark .nil))) (hvariadic v h)

theorem Signature.closed_code {s : Signature} (habi : s.abi.Closed) (hname : IsPlainWord s.name)
    (hgenerics : s.generics.code.Closed) (hparams : s.paramsCode.Closed)
    (houtput : ∀ t ∈ s.output, t.code.Closed) (hpredicates : ∀ c ∈ s.predicates, Code.Closed c) :
    s.code.Closed := by
  have hwords : Code.Closed ((if s.isConst then [.word "const"] else []) ++
      (if s.isAsync then [.word "async"] else []) ++
      (if s.isUnsafe then [.word "unsafe"] else [])) :=
    .append (.append (.ite (.word .nil) .nil) (.ite (.word .nil) .nil)) (.ite (.word .nil) .nil)
  have hhead : Code.Closed (.word "fn" :: .word s.name :: s.generics.code) :=
    .word (.append (.wordToken hname) hgenerics)
  rw [code]
  refine .append (.append (.append (.append (hwords.append habi) hhead) ?_) ?_) ?_
  · exact hparams.within _
  · cases h : s.output with
    | none => exact .nil
    | some t => exact .append .op (houtput t h)
  · exact .whereCode hpredicates

theorem Struct.closed_code {s : Struct} (hattributes : (Attribute.codeAll s.attributes).Closed)
    (hvisibility : s.visibility.Closed) (hname : IsPlainWord s.name)
    (hgenerics : s.generics.code.Closed) (hpredicates : ∀ c ∈ s.predicates, Code.Closed c)
    (hfields : s.fields.code.Closed) : s.code.Closed := by
  have hbody : s.bodyCode.Closed := by
    have hwhere := Code.Closed.whereCode hpredicates
    rw [bodyCode]
    cases h : s.fields <;> rw [h] at hfields
    case unit => exact hwhere.append (.mark .nil)
    case named => exact hwhere.append hfields
    case unnamed => exact .append (.append hfields hwhere) (.mark .nil)
  rw [code]
  exact .append (.append (hattributes.append hvisibility)
    (.word (.append (.wordToken hname) hgenerics))) hbody

theorem Item.closed_codeAll {is : List Item} (h : ∀ i ∈ is, i.code.Closed) :
    (Item.codeAll is).Closed := by
  induction is with
  | nil => exact .nil
  | cons i is ih =>
    obtain ⟨hi, his⟩ := List.forall_mem_cons.mp h
    rw [Item.codeAll]
    exact .append hi (ih his)

theorem Item.closed_other {c : Code} (h : c.Closed) : (Item.other c).code.Closed := by
  rwa [Item.code]

theorem Item.closed_struct {s : Struct} (h : s.code.Closed) : (Item.struct s).code.Closed := by
  rwa [Item.code]

namespace Grammar

open Reader

/-- A parameter that has been read is closed. -/
def Parameter.Closed : Parameter → Prop
  | .receiver code _ | .variadic code => code.Closed
  | .typed pattern ty => pattern.Closed ∧ ty.code.Closed

/-- Parameters that have been read are closed. -/
def Params.Closed (ps : Params) : Prop :=
  (∀ p ∈ ps.1, p.code.Closed) ∧ ∀ c ∈ ps.2.2, Code.Closed c

/-- The parts of an item that names a type are closed. -/
structure TypeName.Closed (t : TypeName) : Prop where
  head : t.head.Closed
  bounds : t.bounds.Closed
  valueCode : t.valueCode.Closed
  clauseCode : t.clauseCode.Closed

theorem TypeName.Closed.ofParts {n : String} (hn : IsWord n) {generics : Generics}
    (hgenerics : generics.code.Closed) {bounds : Code} (hbounds : bounds.Closed)
    {hasColon : Bool} {predicates : Option Code} (hpredicates : ∀ c ∈ predicates, Code.Closed c)
    {value : Option Ty} (hvalue : ∀ t ∈ value, t.Closed) :
    TypeName.Closed ⟨n, generics, bounds, hasColon, predicates, value⟩ where
  head := .word (.append (.wordToken hn.2) hgenerics)
  bounds := hbounds
  valueCode := by
    cases value with
    | none => exact .nil
    | some t => exact .mark (hvalue t rfl).code
  clauseCode := .whereCode hpredicates

theorem reads_variadicEnd {code : Code} (h : code.Closed) :
    Reads Params.Closed (variadicEnd code) := by
  have hsome {c : Code} (h : c.Closed) : Params.Closed ([], true, some c) :=
    ⟨nofun, forall_mem_some h⟩
  exact .ofSees fun _ ↦ .ite (.pure (hsome h)) (.ofOperator (.pure (hsome (h.append (.mark .nil)))))

theorem reads_orWritten {p : Reader (Option Code)} (hp : Reads (fun o ↦ ∀ c ∈ o, Code.Closed c) p) :
    Reads Code.Closed (orWritten p) := by
  refine .bind hp.taking fun (code, taken) h ↦ .pure ?_
  cases code with
  | none => exact .of_lexed h.2
  | some c => exact h.1 c rfl

theorem reads_macroEnd (d : Delimiter) : Reads Code.Closed (macroEnd d) :=
  .ite (.pure .nil) reads_semicolon

theorem reads_memberMacro : Reads Code.Closed memberMacro :=
  .bind reads_plainPath fun _ hpath ↦ .bind reads_macroRest fun (d, _) hargs ↦
    (reads_macroEnd d).map fun _ h ↦ .append (.append hpath.code hargs) h

theorem reads_constantName : Reads IsWord constantName :=
  .ofRest fun _ ↦ .ite (reads_anyWord.map fun _ h ↦ h) (.want _)

theorem reads_macroItem : Reads Code.Closed macroItem := by
  refine .bind reads_plainPath fun path hpath ↦ .ofOperator <| .ofSees fun _ ↦
    .optional (P := Code.Closed) reads_anyWord (fun _ hw ↦ .wordToken hw.2) .nil fun n hn ↦
    .bind reads_macroTrees fun (d, args) hargs ↦ (reads_macroEnd d).map fun _ h ↦ ?_
  exact .append (.append (hpath.code.append (.mark hn)) hargs) h

theorem reads_macroDefinition : Reads (fun _ ↦ True) macroDefinition := by
  have hbody (parens : Bool) : Reads (fun _ ↦ True) (do
      if ← sees (Ahead.group .braces) then let _ ← anyGroup
      else want ((if parens then [] else [Wanted.group .parens]) ++ [.group .braces])) :=
    .ofSees fun _ ↦ .ite (.andThen reads_anyGroup fun _ ↦ .pure trivial) (.want _)
  refine .andThen reads_visibility fun _ ↦ .ofKeyword <| .andThen reads_name fun _ ↦
    .ofSees fun parens ↦ .ite (.andThen reads_anyGroup fun _ ↦ hbody parens) (hbody parens)

/-! ## Imports -/

theorem reads_newName : Reads IsWord newName :=
  .ofRest fun _ ↦ .ite (reads_anyWord.map fun _ h ↦ h) (.want _)

theorem reads_useTreeTo (roots : Bool) (depth : Nat) :
    Reads (fun o ↦ ∀ c ∈ o, Code.Closed c) (useTreeTo roots depth) := by
  induction depth generalizing roots with
  | zero => exact .noRounds
  | succ n ih =>
    refine .ofRest fun ts ↦ .ite (.bind reads_anyWord fun (w, _) hw ↦ .ofOperator? fun _ ↦ ?_) ?_
    · refine .ite ((ih false).map fun o ho ↦ ?_) (.ofKeyword? fun _ ↦ .ite ?_ (.pure ?_))
      · exact forall_mem_map ho fun c hc ↦ .append (.append (.wordToken hw.2) (.op (s := "::"))) hc
      · exact reads_newName.map fun _ hn ↦
          forall_mem_some (.append (.wordToken hw.2) (.word (.wordToken hn.2)))
      · exact forall_mem_some (.wordToken hw.2)
    · refine .ofOperator? fun _ ↦ .ite (.pure (forall_mem_some (.mark .nil))) (.ite ?_ (.want _))
      refine .bind (reads_group _ (.commaList (P := fun o ↦ ∀ c ∈ o, Code.Closed c) ?_))
        fun (trees, trailing) h ↦ .pure ?_
      · refine .iteBind .operator? (.pure trivial) fun isRoot _ ↦ (ih _).map fun o ho ↦ ?_
        split
        · exact nofun
        · exact ho
      · split
        · refine forall_mem_some (.within (.commas (fun c hc ↦ ?_) _) _)
          obtain ⟨o, ho, rfl⟩ := List.mem_map.mp hc
          exact .getD (h o ho)
        · exact nofun

theorem reads_useItem : Reads (fun o ↦ ∀ c ∈ o, Code.Closed c) useItem := by
  refine .bind reads_visibility fun vis hvis ↦ .ofKeyword <| .ofOperator? fun rooted ↦
    .ofRest fun ts ↦ .bind (reads_useTreeTo _ _) fun tree htree ↦ reads_semicolon.map fun _ h ↦ ?_
  refine forall_mem_map htree fun c hc ↦ ?_
  exact .append (.append (hvis.append (.word (.ite .op .nil))) hc) h

theorem reads_externCrate : Reads Code.Closed externCrate := by
  refine .bind reads_visibility fun vis hvis ↦ .ofKeyword <| .ofKeyword <| .ofSees fun _ ↦
    .iteBind reads_anyWord reads_name fun (n, _) hn ↦ .ofKeyword? fun _ ↦ ?_
  have hend {renamed : Code} (hrenamed : renamed.Closed) : Reads Code.Closed (do
      return vis ++ .word "extern" :: .word "crate" :: .word n :: renamed ++ (← semicolon)) :=
    reads_semicolon.map fun _ h ↦
      .append (.append hvis (.word (.word (.append (.wordToken hn.2) hrenamed)))) h
  refine .ite (.ofSees fun _ ↦ ?_) (.pureBind (hend .nil))
  exact .iteBind reads_anyWord reads_name fun (m, _) hm ↦
    .pureBind (hend (.word (.wordToken hm.2)))

namespace Nested.Closed

variable {r : Nested} (hr : r.Closed)

include hr

/-! ## Signatures -/

theorem receiver : Reads (fun r ↦ Code.Closed r.1) r.receiver := by
  refine .ofOperator? fun byReference ↦ .iteBind reads_lifetimeCode? (.pure .nil) fun l hl ↦
    .bind (reads_keywordCode? "mut") fun mutable hmutable ↦ .ofHere fun place ↦
    .ofKeyword <| .ofSees fun _ ↦ .ite (.fails (.andThen ?_)) (.ofSees fun _ ↦ ?_)
  · exact .bind fun _ ↦ .bind fun _ ↦ .fail _ _
  · have hhead : Code.Closed ((if byReference then [Token.mark '&' false] else []) ++ l ++
        mutable ++ [.word "self"]) :=
      .append (.append (.append (.ite (.mark .nil) .nil) hl) hmutable) (.word .nil)
    refine .ite (.ofOperator ((hr.type true).map fun t ht ↦ ?_)) (.pure hhead)
    exact hhead.append (.mark ht.code)

theorem parameter : Reads Parameter.Closed r.parameter := by
  refine .bind hr.receiver.attempt fun o ho ↦ ?_
  split
  next code place => exact .pure (ho _ rfl)
  next =>
    refine .ofRest fun ts ↦ .ite ((hr.type true).map fun t ht ↦ ⟨.word .nil, ht.code⟩) ?_
    refine .bind hr.pattern fun p hp ↦ .ofOperator (.ofOperator? fun _ ↦ .ite (.pure ?_) ?_)
    · exact .append hp (.mark .op)
    · exact (hr.type true).map fun t ht ↦ ⟨hp, ht.code⟩

theorem paramsFor (first self : Bool) (n : Nat) :
    Reads Params.Closed (r.paramsFor first self n) := by
  induction n generalizing first self with
  | zero =>
    rw [Nested.paramsFor]
    exact .noRounds
  | succ n ih =>
    have hgo {p : Param} (hp : p.code.Closed) (self : Bool) :
        Reads Params.Closed (paramsFor.go r n p self) := by
      rw [paramsFor.go]
      refine .ofSees fun _ ↦ .ite ?_ (.ofOperator ?_)
      · exact .pure ⟨List.forall_mem_singleton.mpr hp, fun _ h ↦ absurd h (Option.not_mem_none _)⟩
      · exact (ih false self).map fun r hr ↦ ⟨List.forall_mem_cons.mpr ⟨hp, hr.1⟩, hr.2⟩
    rw [Nested.paramsFor]
    have hnone : Params.Closed ([], true, none) :=
      ⟨List.forall_mem_nil _, fun _ h ↦ absurd h (Option.not_mem_none _)⟩
    refine .ofSees fun _ ↦ .ite (.pure hnone) (.bind hr.outerCode fun attrs hattrs ↦ ?_)
    refine .ofOperator? fun _ ↦ .ite ?_ (.bind hr.parameter fun p hp ↦ ?_)
    · exact reads_variadicEnd (hattrs.append (.op (s := "...")))
    · cases p with
      | variadic code => exact reads_variadicEnd (hattrs.append hp)
      | receiver code place =>
        refine .ite (.fails (.andThen (.fail _ _))) (.ite (.fails (.andThen (.fail _ _))) ?_)
        refine hgo ?_ true
        exact hattrs.append hp
      | typed p t =>
        refine hgo ?_ self
        exact .append (hattrs.append hp.1) (.mark hp.2)

theorem signatureOf (foreign : Bool) : Reads (fun r ↦ r.1.code.Closed) (r.signatureOf foreign) := by
  refine .ofKeyword? fun isConst ↦ .ofKeyword? fun isAsync ↦ .ofKeyword? fun isUnsafe ↦
    .iteBind (.keyword? "safe") (.pure trivial) fun isSafe _ ↦ .bind reads_abi fun abi habi ↦
    .ofKeyword <| .bind reads_name fun (n, _) hn ↦ .bind hr.generics fun generics hgenerics ↦
    .bind (reads_group _ (.ofRest fun _ ↦ hr.paramsFor true false _))
      fun (params, trailing, variadic) hparams ↦ .ofOperator? fun _ ↦
    .optional (P := fun o ↦ ∀ t ∈ o, t.code.Closed) (hr.type true) ?_ nofun
      fun output houtput ↦ hr.whereClause?.map fun predicates hpredicates ↦ ?_
  · exact fun t ht ↦ forall_mem_some ht.code
  · exact Signature.closed_code habi hn.2 hgenerics
      (Signature.closed_paramsCode hparams.1 hparams.2) houtput hpredicates

theorem signature : Reads (fun s ↦ s.code.Closed) r.signature :=
  (hr.signatureOf false).map fun _ h ↦ h

/-! ## Fields -/

theorem fieldType (unnamed : Bool) : Reads Code.Closed (r.fieldType unnamed) := by
  refine .ofTrees fun ts hts ↦ .ite (fun h ↦ ?_) fun _ ↦
    .of_reads ((hr.type true).map fun _ ht ↦ ht.code) hts
  have hword : ∃ w, Ahead.word w ts = true := by
    obtain h | h := Bool.or_eq_true_iff.mp (Bool.and_eq_true_iff.mp h).2
    · exact ⟨_, h⟩
    · exact ⟨_, (Bool.and_eq_true_iff.mp h).1⟩
  obtain ⟨w, hw⟩ := hword
  obtain ⟨s, more, rfl⟩ := Ahead.exists_of_word hw
  exact .bind hts (.taking (.dropOne hts nofun hr.namedFields)) fun _ h ↦ .pure (.of_lexed h.2)

theorem namedField : Reads Code.Closed r.namedField := by
  refine .bind hr.outerCode fun attrs hattrs ↦ .bind reads_visibility fun vis hvis ↦
    .ofSees fun unnamed ↦ .iteBind reads_anyWord reads_name fun (n, _) hn ↦ .ofOperator ?_
  exact (hr.fieldType unnamed).map fun _ h ↦
    .append (hattrs.append hvis) (.append (.wordToken hn.2) (.mark h))

theorem unnamedField : Reads Code.Closed r.unnamedField :=
  .bind hr.outerCode fun _ hattrs ↦ .bind reads_visibility fun _ hvis ↦
    (hr.type true).map fun _ ht ↦ .append (hattrs.append hvis) ht.code

theorem namedFieldsOf : Reads (fun fs ↦ fs.code.Closed) r.namedFieldsOf :=
  .bind (reads_group _ (.commaList hr.namedField)).taking fun ((_, _), _) h ↦
    .pure (.within (.commas h.1 _) _)

theorem unnamedFields : Reads (fun fs ↦ fs.code.Closed) r.unnamedFields :=
  .bind (reads_group _ (.commaList hr.unnamedField)).taking fun ((_, _), _) h ↦
    .pure (.within (.commas h.1 _) _)

/-! ## Structs -/

theorem structBody :
    Reads (fun b ↦ (∀ c ∈ b.1, Code.Closed c) ∧ b.2.code.Closed) r.structBody := by
  refine .bind hr.whereClause? fun clause hclause ↦ .ofRest fun ts ↦ .ite ?_ <| .ite ?_ ?_
  · refine .bind hr.unnamedFields fun fields hfields ↦ .bind hr.whereClause? fun clause hclause ↦ ?_
    exact .ofOperator? fun _ ↦ .ite (.pure ⟨hclause, hfields⟩) (.want _)
  · exact hr.namedFields.map fun _ h ↦ ⟨hclause, h⟩
  · exact .ofOperator? fun _ ↦ .ite (.pure ⟨hclause, .nil⟩) (.want _)

theorem structAfter {attributes : List Attribute} (h : ∀ a ∈ attributes, a.code.Closed) :
    Reads (fun s ↦ s.code.Closed) (r.structAfter attributes) := by
  refine .bind reads_visibility fun vis hvis ↦ .ofKeyword <| .bind reads_name fun (n, _) hn ↦
    .bind hr.generics fun generics hgenerics ↦
    .bind hr.structBody fun (predicates, fields) hbody ↦ .pure ?_
  exact Struct.closed_code (Attribute.closed_codeAll h) hvis hn.2 hgenerics hbody.1 hbody.2

theorem struct : Reads (fun s ↦ s.code.Closed) r.struct :=
  .bind hr.outerAttributes fun _ h ↦ hr.structAfter h

/-! ## Constants, names for types and macros -/

theorem constantRest : Reads (fun c ↦ c.code.Closed) r.constantRest := by
  refine .ofRest fun ts ↦ .andThen hr.generics fun _ ↦ .ofOperator <|
    .bind (hr.type true) fun t ht ↦ .ofOperator? fun hasValue ↦
    .optional (P := Code.Closed) hr.expression (fun e he ↦ .mark he) .nil fun value hvalue ↦
    .bind hr.whereClause? fun _ _ ↦ reads_semicolon.map fun _ h ↦ ?_
  exact .append (.append (.mark ht.code) hvalue) h

theorem typeName (place : ClausePlace) : Reads TypeName.Closed (r.typeName place) := by
  refine .ofKeyword <| .bind reads_name fun (n, _) hn ↦ .bind hr.generics fun generics hgenerics ↦
    .ofOperator? fun hasColon ↦ .iteBind (hr.boundsTo _ _) (.pure .nil) fun bounds hbounds ↦
    .iteBind (.pure nofun) hr.whereClause? fun early hearly ↦ .ofOperator? fun _ ↦
    .optional (P := fun o ↦ ∀ t ∈ o, t.Closed) (hr.type true) ?_ nofun fun value hvalue ↦
    .iteBind (.pure nofun) hr.whereClause? fun late hlate ↦ .ofOperator (.pure ?_)
  · exact fun t ht ↦ forall_mem_some ht
  · exact .ofParts hn hgenerics hbounds (fun c hc ↦
      (Option.or_eq_some_iff.mp hc).elim (hearly c) fun hc ↦ hlate c hc.2) hvalue

/-! ## Members -/

theorem memberFunction {attrs : Code} (hattrs : attrs.Closed) (isDefault : Bool) :
    Reads (fun o ↦ ∀ m ∈ o, Code.Closed m.2) (r.memberFunction attrs isDefault) := by
  refine .bind reads_visibility fun vis hvis ↦
    .iteBind (reads_keywordCode "default") (.pure .nil) fun words hwords ↦
    .bind hr.signature fun signature hsignature ↦ .ofOperator? fun _ ↦ .ite (.pure nofun) ?_
  refine hr.body.map fun _ h ↦ forall_mem_some ?_
  exact .append (.append (.append (.append hattrs hvis) hwords) hsignature) h

omit hr in
theorem memberWords (isDefault : Bool) : Reads Code.Closed (memberWords isDefault) :=
  .bind reads_visibility fun _ hvis ↦
    .ite ((reads_keywordCode "default").map fun _ ↦ hvis.append) (.pure hvis)

theorem memberConstant {attrs : Code} (hattrs : attrs.Closed) (isDefault : Bool) :
    Reads (fun o ↦ ∀ m ∈ o, Code.Closed m.2) (r.memberConstant attrs isDefault) := by
  refine .bind (memberWords isDefault) fun words hwords ↦ .ofKeyword <|
    .bind reads_constantName fun n hn ↦ .bind hr.constantRest fun c hc ↦
    .ite (.pure (forall_mem_some ?_)) (.pure nofun)
  exact .append (hattrs.append hwords) (.word (.append (.wordToken hn.2) hc))

theorem memberType {attrs : Code} (hattrs : attrs.Closed) (isDefault : Bool) :
    Reads (fun o ↦ ∀ m ∈ o, Code.Closed m.2) (r.memberType attrs isDefault) := by
  refine .bind (memberWords isDefault) fun words hwords ↦ .bind (hr.typeName .after) fun t ht ↦
    .ite (.pure (forall_mem_some ?_)) (.pure nofun)
  exact hattrs.append (.append (.append (.append (hwords.append ht.head) ht.valueCode)
    ht.clauseCode) (.mark .nil))

theorem knownMember : Reads (fun o ↦ ∀ m ∈ o, Code.Closed m.2) r.knownMember := by
  refine .bind hr.outerCode fun attrs hattrs ↦ .bind reads_visibility.after fun (vis, ts) _ ↦ ?_
  refine .ite (hr.memberFunction hattrs _) <| .ite (hr.memberConstant hattrs _) <|
    .ite (hr.memberType hattrs _) <| .ite ?_ (.andThen (memberWords _) fun _ ↦ .want _)
  exact reads_memberMacro.map fun _ h ↦ forall_mem_some (.append hattrs h)

theorem member : Reads (fun m ↦ Code.Closed m.2) r.member := by
  refine .bind hr.knownMember.taking fun (known, taken) h ↦ .pure ?_
  cases known with
  | none => exact .of_lexed h.2
  | some m => exact h.1 m rfl

/-! ## Blocks of members -/

theorem blockTypes : Reads (fun h ↦ h.code.Closed) r.blockTypes := by
  have hnot : Reads (fun _ ↦ True) (operator "!") := reads_operator
  refine .ofHere fun place ↦ .ofRest fun ts ↦ .onlyIf hnot <|
    .bind (hr.type true) fun first hfirst ↦ .ofKeyword? fun _ ↦ .ite ?_ ?_
  · refine (hr.type true).map fun self hself ↦ ?_
    exact .append (.append (.ite (.mark .nil) .nil) hfirst.code) (.word hself.code)
  · exact .ite (.fails (.andThen (.fail _ _))) (.pure hfirst.code)

theorem blockHead : Reads (fun h ↦ h.code.Closed) r.blockHead := by
  refine .bind reads_visibility fun vis hvis ↦ .bind (reads_keywordCode? "default") fun a ha ↦
    .bind (reads_keywordCode? "unsafe") fun b hb ↦ .ofKeyword <| .ofSees fun _ ↦
    .iteBind hr.generics (.pure .nil) fun generics hgenerics ↦ .ofRest fun ts ↦ ?_
  have hend (isConst : Bool) : Reads (fun h ↦ h.code.Closed) (do
      let types ← r.blockTypes
      let clause ← r.whereClause?
      let code := a ++ b ++ .word "impl" :: generics.code ++ types.code ++ whereCode clause
      return { types with isStrange := types.isStrange || !vis.isEmpty || isConst, code }) :=
    .bind hr.blockTypes fun types htypes ↦ hr.whereClause?.map fun _ hclause ↦
      .append (.append (.append (ha.append hb) (.word hgenerics)) htypes) (.whereCode hclause)
  exact .ite (.ofOperator? fun _ ↦ .ofKeyword (hend _)) (hend _)

theorem memberBlock {attrs : Code} (hattrs : attrs.Closed) :
    Reads (fun o ↦ ∀ i ∈ o, i.code.Closed) (r.memberBlock attrs) := by
  have hinside : Reads (fun m ↦ Code.Closed m.1 ∧ ∀ a ∈ m.2, Code.Closed a.2) (do
      let inner ← r.innerCode
      return (inner, ← many (!List.isEmpty ·) r.member)) :=
    .bind hr.innerCode fun _ hinner ↦ (Reads.many hr.member).map fun _ h ↦ ⟨hinner, h⟩
  refine .bind hr.blockHead fun head hhead ↦ .bind (reads_group _ hinside)
    fun (inner, members) h ↦ .ite (.pure nofun) (.pure (forall_mem_some ?_))
  have hmembers : Code.Closed (members.flatMap Prod.snd) := by
    rw [List.flatMap_def]
    refine .flatten fun c hc ↦ ?_
    obtain ⟨m, hm, rfl⟩ := List.mem_map.mp hc
    exact h.2 m hm
  rw [Item.code]
  exact .append (hattrs.append hhead) (.within (.append h.1 hmembers) _)

/-! ## Foreign blocks -/

theorem foreignFunction : Reads (fun o ↦ ∀ c ∈ o, Code.Closed c) r.foreignFunction := by
  refine .bind reads_visibility fun vis hvis ↦
    .bind (hr.signatureOf true) fun (signature, isSafe) hsignature ↦ .ofSees fun _ ↦
    .ite (.andThen hr.body fun _ ↦ .pure nofun) (reads_semicolon.map fun _ h ↦ ?_)
  split
  · exact nofun
  · exact forall_mem_some (.append (hvis.append hsignature) h)

theorem foreignStatic : Reads (fun o ↦ ∀ c ∈ o, Code.Closed c) r.foreignStatic := by
  refine .bind reads_visibility fun vis hvis ↦ .ofKeyword? fun isUnsafe ↦
    .iteBind (.pure trivial) (.keyword? "safe") fun isSafe _ ↦ .ofKeyword <|
    .bind (reads_keywordCode? "mut") fun mutable hmutable ↦ .bind reads_name fun (n, _) hn ↦
    .ofOperator <| .bind (hr.type true) fun t ht ↦ .ofOperator? fun hasValue ↦
    .onlyIf hr.expression <| reads_semicolon.map fun stop hstop ↦ ?_
  split
  · exact nofun
  · refine forall_mem_some ?_
    exact .append (.append (.append hvis (.word hmutable))
      (.append (.wordToken hn.2) (.mark ht.code))) hstop

theorem foreignType : Reads (fun o ↦ ∀ c ∈ o, Code.Closed c) r.foreignType := by
  refine .bind reads_visibility fun vis hvis ↦ (hr.typeName .either).map fun t ht ↦ ?_
  split
  · exact nofun
  · exact forall_mem_some (.append (.append (hvis.append ht.head) ht.clauseCode) (.mark .nil))

theorem foreignItem : Reads (fun o ↦ ∀ c ∈ o, Code.Closed c) r.foreignItem := by
  refine .bind hr.outerCode fun attrs hattrs ↦ .bind reads_visibility.after fun (vis, ts) _ ↦ ?_
  have hend {p : Reader (Option Code)} (hp : Reads (fun o ↦ ∀ c ∈ o, Code.Closed c) p) :
      Reads (fun o ↦ ∀ c ∈ o, Code.Closed c) (do return (← p).map (attrs ++ ·)) :=
    hp.map fun _ ho ↦ forall_mem_map ho fun _ ↦ hattrs.append
  exact .ite (hend hr.foreignFunction) <| .ite (hend hr.foreignStatic) <|
    .ite (hend hr.foreignType) <| .ite (hend (.mapSome reads_memberMacro)) <|
    .andThen reads_visibility fun _ ↦ .fails (.andThen (.want _))

theorem foreignBlock : Reads Code.Closed r.foreignBlock := by
  refine .bind (reads_keywordCode? "unsafe") fun safety hsafety ↦ .ofSees fun _ ↦
    .ite (.fails (.andThen (.want _))) <| .bind reads_abi fun convention hconvention ↦
    .bind (reads_group (P := Code.Closed) _ ?_) fun inner hinner ↦ .pure ?_
  · exact .bind hr.innerCode fun _ hinner ↦ (Reads.many (reads_orWritten hr.foreignItem)).map
      fun _ h ↦ hinner.append (.flatten h)
  · exact .append (hsafety.append hconvention) (.within hinner _)

/-! ## Traits -/

theorem traitFunction : Reads Code.Closed r.traitFunction := by
  refine .bind hr.signature fun signature hsignature ↦ .ofRest fun _ ↦ .ite ?_ (.ite ?_ (.want _))
  · exact hr.body.map fun _ ↦ hsignature.append
  · exact reads_semicolon.map fun _ ↦ hsignature.append

theorem traitConstant : Reads (fun o ↦ ∀ c ∈ o, Code.Closed c) r.traitConstant := by
  refine .ofRest fun ts ↦ .ite (hr.traitFunction.map fun _ ↦ forall_mem_some) <| .ofKeyword <|
    .ite (.fails (.andThen (.want _))) <| .bind reads_constantName fun n hn ↦
    hr.constantRest.map fun c hc ↦ ?_
  split
  · exact forall_mem_some (.word (.append (.wordToken hn.2) hc))
  · exact nofun

theorem traitType : Reads Code.Closed r.traitType :=
  (hr.typeName .after).map fun _ ht ↦
    .append (.append (.append (ht.head.append (closed_afterColon ht.bounds)) ht.valueCode)
      ht.clauseCode) (.mark .nil)

theorem traitMember : Reads (fun o ↦ ∀ c ∈ o, Code.Closed c) r.traitMember := by
  refine .bind hr.outerCode fun attrs hattrs ↦ .bind reads_visibility fun vis _ ↦
    .ofKeyword? fun isDefault ↦ .ofRest fun ts ↦ ?_
  have hend {p : Reader (Option Code)} (hp : Reads (fun o ↦ ∀ c ∈ o, Code.Closed c) p) :
      Reads (fun o ↦ ∀ c ∈ o, Code.Closed c) (do
        let code ← p
        return if vis.isEmpty && !isDefault then code.map (attrs ++ ·) else none) := by
    refine hp.map fun _ ho ↦ ?_
    split
    · exact forall_mem_map ho fun _ ↦ hattrs.append
    · exact nofun
  exact .ite (hend (.mapSome hr.traitFunction)) <| .ite (hend hr.traitConstant) <|
    .ite (hend (.mapSome hr.traitType)) <| .ite (hend (.mapSome reads_memberMacro)) <|
    .fails (.andThen (.want _))

theorem traitRest : Reads Code.Closed r.traitRest := by
  refine .ofOperator? fun _ ↦ .iteBind (hr.boundsTo true _) (.pure .nil) fun bounds hbounds ↦
    .bind hr.whereClause? fun clause hclause ↦
    .bind (reads_group (P := Code.Closed) _ ?_) fun inner hinner ↦ .pure ?_
  · exact .bind hr.innerCode fun _ hinner ↦ (Reads.many (reads_orWritten hr.traitMember)).map
      fun _ h ↦ hinner.append (.flatten h)
  · exact .append ((closed_afterColon hbounds).append (.whereCode hclause)) (.within hinner _)

theorem traitAliasRest : Reads Code.Closed r.traitAliasRest :=
  .ofOperator <| .bind (hr.boundsTo false _) fun _ hbounds ↦ .bind hr.whereClause? fun _ hclause ↦
    reads_semicolon.map fun _ h ↦ .append (.append (.mark hbounds) (.whereCode hclause)) h

theorem trait : Reads Code.Closed r.trait := by
  refine .bind reads_visibility fun vis hvis ↦ .bind (reads_keywordCode? "unsafe") fun a ha ↦
    .bind (reads_keywordCode? "auto") fun b hb ↦ .ofKeyword <| .bind reads_name fun (n, _) hn ↦
    .bind hr.generics fun generics hgenerics ↦ ?_
  have hhead : Code.Closed (vis ++ (a ++ b) ++ .word "trait" :: .word n :: generics.code) :=
    .append (hvis.append (ha.append hb)) (.word (.append (.wordToken hn.2) hgenerics))
  have hrest : Reads Code.Closed (do
      return vis ++ (a ++ b) ++ .word "trait" :: .word n :: generics.code ++ (← r.traitRest)) :=
    hr.traitRest.map fun _ ↦ hhead.append
  refine .ite hrest (.ofRest fun ts ↦ .ite ?_ (.ite hrest (.want _)))
  exact hr.traitAliasRest.map fun _ ↦ hhead.append

/-! ## Functions and values -/

theorem functionItem : Reads (fun o ↦ ∀ c ∈ o, Code.Closed c) r.functionItem :=
  .bind reads_visibility fun _ hvis ↦ .bind hr.signature fun _ hsignature ↦ .ofOperator? fun _ ↦
    .ite (.pure nofun) <| hr.body.map fun _ h ↦
      forall_mem_some (.append (hvis.append hsignature) h)

theorem staticItem : Reads (fun o ↦ ∀ c ∈ o, Code.Closed c) r.staticItem := by
  refine .bind reads_visibility fun vis hvis ↦ .ofKeyword <|
    .bind (reads_keywordCode? "mut") fun mutable hmutable ↦ .bind reads_name fun (n, _) hn ↦
    .ofOperator? fun _ ↦ .ite (.andThen hr.expression fun _ ↦ .ofOperator (.pure nofun)) <|
    .ofOperator <| .bind (hr.type true) fun t ht ↦ .ofOperator? fun _ ↦ .ite (.pure nofun) <|
    .ofOperator <| .bind hr.expression fun e he ↦ reads_semicolon.map fun stop hstop ↦
    forall_mem_some ?_
  exact .append (.append (.append (.append hvis (.word hmutable))
    (.append (.wordToken hn.2) (.mark ht.code))) (.mark he)) hstop

theorem constantItem : Reads (fun o ↦ ∀ c ∈ o, Code.Closed c) r.constantItem := by
  refine .bind reads_visibility fun vis hvis ↦ .ofKeyword <| .bind reads_constantName fun n hn ↦
    hr.constantRest.map fun c hc ↦ ?_
  split
  · exact forall_mem_some (.append hvis (.word (.append (.wordToken hn.2) hc)))
  · exact nofun

/-! ## Types -/

theorem typeItem : Reads (fun o ↦ ∀ c ∈ o, Code.Closed c) r.typeItem := by
  refine .bind reads_visibility fun vis hvis ↦ (hr.typeName .before).map fun t ht ↦ ?_
  split
  · exact forall_mem_some (.append (.append (.append (hvis.append ht.head) ht.clauseCode)
      ht.valueCode) (.mark .nil))
  · exact nofun

theorem variant : Reads Code.Closed r.variant := by
  refine .bind hr.outerCode fun attrs hattrs ↦ .andThen reads_visibility fun _ ↦
    .bind reads_name fun (n, _) hn ↦ .ofRest fun ts ↦ ?_
  have hend {fields : Fields} (hfields : fields.code.Closed) : Reads Code.Closed (do
      let value ←
        if ← operator? "=" then pure (.mark '=' false :: (← r.expression).code) else pure []
      return attrs ++ .word n :: fields.code ++ value) :=
    .ofOperator? fun _ ↦ .optional (P := Code.Closed) hr.expression (fun _ ↦ .mark) .nil
      fun _ hvalue ↦ .pure (.append (hattrs.append (.append (.wordToken hn.2) hfields)) hvalue)
  exact .ite (.bind hr.namedFields fun _ ↦ hend) <|
    .ite (.bind hr.unnamedFields fun _ ↦ hend) (.pureBind (hend .nil))

theorem enumItem : Reads Code.Closed r.enumItem := by
  refine .bind reads_visibility fun vis hvis ↦ .ofKeyword <| .bind reads_name fun (n, _) hn ↦
    .bind hr.generics fun generics hgenerics ↦ .bind hr.whereClause? fun clause hclause ↦
    .bind (reads_group _ (.commaList hr.variant)) fun (variants, trailing) h ↦ .pure ?_
  have hhead : Code.Closed (vis ++ .word "enum" :: .word n :: generics.code) :=
    .append hvis (.word (.append (.wordToken hn.2) hgenerics))
  exact .append (hhead.append (.whereCode hclause)) (.within (.commas h _) _)

theorem unionItem : Reads Code.Closed r.unionItem := by
  refine .bind reads_visibility fun vis hvis ↦ .ofKeyword <| .bind reads_name fun (n, _) hn ↦
    .bind hr.generics fun generics hgenerics ↦ .bind hr.whereClause? fun clause hclause ↦
    hr.namedFields.map fun fields hfields ↦ ?_
  have hhead : Code.Closed (vis ++ .word "union" :: .word n :: generics.code) :=
    .append hvis (.word (.append (.wordToken hn.2) hgenerics))
  exact .append (hhead.append (.whereCode hclause)) hfields

/-! ## Modules -/

theorem moduleAfter {attrs : Code} (hattrs : attrs.Closed) :
    Reads (fun i ↦ i.code.Closed) (r.moduleAfter attrs) := by
  refine .bind reads_visibility fun vis hvis ↦
    .bind (reads_keywordCode? "unsafe") fun safety hsafety ↦ .ofKeyword <|
    .bind reads_nameOrTry fun n hn ↦ ?_
  have hstart : Code.Closed (attrs ++ vis ++ safety ++ [.word "mod"]) :=
    .append (.append (hattrs.append hvis) hsafety) (.word .nil)
  refine .ofOperator? fun _ ↦ .ite (.pure ?_) (.ofSees fun _ ↦ .ite ?_ (.want _))
  · exact Item.closed_other (hstart.append (.append (.wordToken hn.2) (.mark .nil)))
  · have hinside : Reads (fun m ↦ Code.Closed m.1 ∧ ∀ i ∈ m.2, i.code.Closed) (do
        let inner ← r.innerCode
        return (inner, ← many (!List.isEmpty ·) r.item)) :=
      .bind hr.innerCode fun _ hinner ↦ (Reads.many hr.item).map fun _ h ↦ ⟨hinner, h⟩
    refine .bind (reads_group _ hinside) fun (inner, items) h ↦ .pure ?_
    rw [Item.code]
    exact hstart.append
      (.append (.wordToken hn.2) (.within (.append h.1 (Item.closed_codeAll h.2)) _))

/-! ## Items -/

theorem externItem (ts : List Tree) : Reads Code.Closed (r.externItem ts) :=
  .ite reads_externCrate <| .ite hr.foreignBlock <|
    .ite (.ite hr.foreignBlock (.fails (.bind fun _ ↦ .want _))) (.fails (.bind fun _ ↦ .want _))

theorem unsafeItem {attrs : Code} (hattrs : attrs.Closed) (ts : List Tree) :
    Reads (fun o ↦ ∀ i ∈ o, i.code.Closed) (r.unsafeItem attrs ts) := by
  refine .ite (hr.trait.map fun _ h ↦ ?_) <| .ite (hr.memberBlock hattrs) <|
    .ite (hr.foreignBlock.map fun _ h ↦ ?_) <|
    .ite ((hr.moduleAfter hattrs).map fun _ h ↦ forall_mem_some h) <|
    .fails (.bind fun _ ↦ .bind fun _ ↦ .want _)
  all_goals exact forall_mem_some (Item.closed_other (hattrs.append h))

theorem knownItem : Reads (fun o ↦ ∀ i ∈ o, i.code.Closed) r.knownItem := by
  refine .bind hr.outerAttributes fun attributes hattributes ↦
    .bind reads_visibility.after fun (vis, ts) _ ↦ ?_
  have hattrs := Attribute.closed_codeAll hattributes
  have hcode {c : Code} (h : c.Closed) :
      (Item.other (Attribute.codeAll attributes ++ c)).code.Closed :=
    Item.closed_other (hattrs.append h)
  have hwritten {p : Reader (Option Code)} (hp : Reads (fun o ↦ ∀ c ∈ o, Code.Closed c) p) :
      Reads (fun o ↦ ∀ i ∈ o, i.code.Closed) (do
        return (← p).map fun c ↦ Item.other (Attribute.codeAll attributes ++ c)) :=
    hp.map fun _ ho ↦ forall_mem_map ho fun _ ↦ hcode
  exact .ite (hwritten hr.functionItem) <|
    .ite ((hr.externItem _).map fun _ h ↦ forall_mem_some (hcode h)) <|
    .ite (hwritten reads_useItem) <| .ite (hwritten hr.staticItem) <|
    .ite (hwritten hr.constantItem) <| .ite (hr.unsafeItem hattrs _) <|
    .ite ((hr.moduleAfter hattrs).map fun _ h ↦ forall_mem_some h) <| .ite (hwritten hr.typeItem) <|
    .ite ((hr.structAfter hattributes).map fun _ h ↦ forall_mem_some (Item.closed_struct h)) <|
    .ite (hr.enumItem.map fun _ h ↦ forall_mem_some (hcode h)) <|
    .ite (hr.unionItem.map fun _ h ↦ forall_mem_some (hcode h)) <|
    .ite (hr.trait.map fun _ h ↦ forall_mem_some (hcode h)) <| .ite (hr.memberBlock hattrs) <|
    .ite (.andThen reads_macroDefinition fun _ ↦ .pure nofun) <|
    .ite (reads_macroItem.map fun _ h ↦ forall_mem_some (hcode h)) <|
    .andThen reads_visibility fun _ ↦ .want _

theorem itemOf : Reads (fun i ↦ i.code.Closed) r.itemOf := by
  refine .bind hr.knownItem.taking fun (known, taken) h ↦ .pure ?_
  cases known with
  | none => exact Item.closed_other (.of_lexed h.2)
  | some i => exact h.1 i rfl

end Nested.Closed

/-! ## Parts that are nested to any depth -/

/-- Readers that fail at once. -/
theorem Nested.closed_tooDeep : Nested.tooDeep.Closed where
  type _ := .noRounds
  arguments := .noRounds
  bound _ _ := .noRounds
  pattern := .noRounds
  operand _ := .noRounds
  climb _ _ _ _ := .noRounds
  clause := .noRounds
  statements := .noRounds
  namedFields := .noRounds
  item := .noRounds

/-- **What is read from a text is written as closed code, however deeply its parts are nested.** -/
theorem Nested.closed_nestedTo (depth : Nat) : (nestedTo depth).Closed := by
  induction depth with
  | zero => exact closed_tooDeep
  | succ depth ih =>
    exact
      { type := ih.typeOf
        arguments := ih.argumentsOf
        bound := ih.boundOf
        pattern := ih.patternOf
        operand := ih.operandOf
        climb := fun structs base _ he ↦ ih.climbFrom structs base he
        clause := ih.clauseOf
        statements := ih.statementsOf
        namedFields := ih.namedFieldsOf
        item := ih.itemOf }

end Grammar

end TypedIds
