import TypedIds.Grammar.Source
import TypedIds.Proofs.Grammar.Follows

/-!
# Reading a type in an entry

What type is read in an entry of a list does not depend on what comes after the entry.  This is so
although a type may have commas: they stand in angle brackets, and an entry ends at a comma only
where the type has ended.

The file follows the readers of types along their definitions, up to `typeOf`.  The readers of
nested parts are assumed to be `Steady`; `Nested.steady_nestedTo` then is an induction on the depth.
Array lengths, the parameters of functions and whatever else stands in a group does not matter.
-/

set_option autoImplicit false

namespace TypedIds.Grammar

open Reader

variable {k : Ending} {inner : Bool} {most : Nat}

/-! ## Words and literals -/

theorem follows_keywordCode? (w : String) :
    Follows k inner most (keywordCode? w) (keywordCode? w) :=
  .bind (.keyword? w) fun _ ↦ .ite (.pure _) (.pure _)

theorem follows_macroRest : Follows k inner most macroRest macroRest :=
  .bind (follows_operator (by decide)) fun _ ↦
    .bind (.bind takesFront_anyGroup.follows fun (_, _) ↦ .pure _) fun (_, _) ↦ .pure _

theorem follows_builtIn : Follows k inner most builtIn builtIn := by
  refine .bind (.taking ?_) fun ((), _) ↦ .pure _
  exact .bind (takesFront_keyword _).follows fun _ ↦ .bind (follows_operator (by decide)) fun _ ↦
    .bind takesFront_name.follows fun _ ↦ .bind (follows_group _ _) fun _ ↦ .pure _

theorem takesFront_literal : TakesFront literal := by
  rintro ⟨ts, scope, leftover⟩ a next h
  obtain ⟨_, _, hrest, h⟩ := bind_eq_ok h
  obtain ⟨rfl, rfl⟩ := Prod.mk.inj (Except.ok.inj hrest)
  dsimp only at h
  split at h
  · cases h
    exact ⟨[.literal _ _], List.cons_ne_nil _ _, rfl, rfl, fun _ _ _ ↦ rfl⟩
  next w s ts _ =>
    split at h
    next hw =>
      cases h
      refine ⟨[.word w s], List.cons_ne_nil _ _, rfl, rfl, fun more _ _ ↦ ?_⟩
      show (if (w == "true" || w == "false") = true then _ else _ : Reader Code) _ = _
      rw [if_pos hw]
      rfl
    next => exact absurd h (Fails.want _ _ _)
  next j s t s' ts _ =>
    split at h
    next ht =>
      cases h
      refine ⟨[.mark '-' j s, .literal t s'], List.cons_ne_nil _ _, rfl, rfl, fun more _ _ ↦ ?_⟩
      show (if Ahead.isNumber t = true then _ else _ : Reader Code) _ = _
      rw [if_pos ht]
      rfl
    next => exact absurd h (Fails.want _ _ _)
  · exact absurd h (Fails.want _ _ _)

/-- The name of an ABI. -/
def abiName : Reader Code := do
  match ← rest with
  | .literal t _ :: _ => drop 1; return [.word "extern", .literal t]
  | _ => want [.textLiteral]

theorem takesFront_abiName : TakesFront abiName := by
  rintro ⟨_ | ⟨_ | _ | ⟨t, s⟩ | _ | _, ts⟩, scope, leftover⟩ a next h
  case cons.literal =>
    cases h
    exact ⟨[.literal t s], List.cons_ne_nil _ _, rfl, rfl, fun _ _ _ ↦ rfl⟩
  all_goals exact absurd h (Fails.want _ _ _)

theorem abi_eq : abi = do
    if ← keyword? "extern" then
      if ← sees Ahead.text then abiName else return [.word "extern"]
    else return [] := by
  refine congrArg (keyword? "extern" >>= ·) (funext fun found ↦ ?_)
  cases found with
  | false => rfl
  | true =>
    funext c
    obtain ⟨_ | ⟨_ | _ | ⟨t, s⟩ | _ | _, ts⟩, scope, leftover⟩ := c
    case cons.literal =>
      show (if Ahead.isText t = true then _ else _ : Reader Code) _ =
        (if Ahead.isText t = true then _ else _ : Reader Code) _
      split <;> rfl
    all_goals rfl

theorem follows_abi : Follows k inner most abi abi := by
  rw [abi_eq]
  refine .bind (.keyword? _) fun _ ↦ .ite ?_ (.pure _)
  exact .bind (.sees Ahead.text_blind) fun _ ↦ .ite takesFront_abiName.follows (.pure _)

/-! ## Attributes and constants -/

namespace Nested

variable (r : Nested)

theorem follows_attributeRest (signs : List Tree) :
    Follows k inner most (r.attributeRest signs) (r.attributeRest signs) :=
  .bind (.taking (follows_group _ _)) fun _ ↦ .pure _

theorem follows_outerAttribute : Follows k inner most r.outerAttribute r.outerAttribute :=
  .bind (.taking (follows_operator (by decide))) fun ((), _) ↦ r.follows_attributeRest _

theorem follows_outerAttributes : Follows k inner most r.outerAttributes r.outerAttributes := by
  refine follows_many (Ahead.operator_blind (by decide)) (fun _ ↦ r.follows_outerAttribute) ?_
  exact (takesFront_operator (by decide)).progresses.taking.before fun ((), _) ↦
    r.follows_attributeRest _

theorem follows_outerCode : Follows k inner most r.outerCode r.outerCode :=
  .bind r.follows_outerAttributes fun _ ↦ .pure _

theorem follows_body : Follows k inner most r.body r.body :=
  .bind (follows_group _ _) fun _ ↦ .pure _

theorem follows_constantArgument :
    Follows k inner most r.constantArgument r.constantArgument := by
  refine .ofRest (fun ts ↦ ?_) fun ts us hblind ↦ ?_
  · refine .ite takesFront_literal.follows (.ite (.bind takesFront_name.follows fun _ ↦ .pure _) ?_)
    exact .ite r.follows_body (.never (.bind fun _ ↦ .bind fun _ ↦ .fail _ _))
  · rw [hblind Ahead.literal_blind, hblind Ahead.name_blind, hblind (Ahead.group_blind _)]

/-- What comes after an entry does not matter to the nested readers that a type is read with. -/
structure Steady (r : Nested) : Prop where
  type : ∀ plus k inner most, Follows k inner most (r.type plus) (r.type plus)
  arguments : ∀ k inner most, Follows k inner most r.arguments r.arguments
  bound : ∀ captures constants k inner most,
    Follows k inner most (r.bound captures constants) (r.bound captures constants)

end Nested

/-! ## Paths -/

theorem startsArguments_blind (direct : Bool) : Blind k inner (startsArguments direct) := by
  refine .or (.and (.and (.and (.const direct) ?_) (.not ?_)) (.not ?_)) (.andDrop ?_ ?_ ?_)
  · exact Ahead.operator_blind (by decide)
  · exact Ahead.operator_blind (by decide)
  · exact Ahead.operator_blind (by decide)
  · exact Ahead.operator_blind (by decide)
  · exact Ahead.operator_asks (by decide)
  · exact Ahead.operator_blind (by decide)

namespace Nested

variable {r : Nested} (hr : r.Steady)

include hr

theorem Steady.segment (direct : Bool) :
    Follows k inner most (r.segment direct) (r.segment direct) := by
  refine .bind (.sees (Ahead.oneOf_blind _)) fun _ ↦ .ite ?_ ?_
  · exact .bind takesFront_anyWord.follows fun _ ↦ .pure _
  · refine .bind (.sees (Ahead.word_blind _)) fun _ ↦ ?_
    dsimp only
    refine .iteBind takesFront_anyWord.follows takesFront_name.follows fun (w, _) ↦ ?_
    refine .bind (.sees (startsArguments_blind direct)) fun _ ↦ .ite ?_ (.pure _)
    exact .bind (hr.arguments _ _ _) fun _ ↦ .pure _

theorem Steady.moreSegments (direct : Bool) {go : List Tree → Bool} (hgo : Blind k inner go) :
    Follows k inner most (r.moreSegments direct go) (r.moreSegments direct go) := by
  refine follows_many hgo (fun _ ↦ ?_) ?_
  · exact .bind (follows_operator (by decide)) fun _ ↦ hr.segment direct
  · exact (takesFront_operator (by decide)).progresses.before fun _ ↦ hr.segment direct

theorem Steady.pathWith (direct : Bool) :
    Follows k inner most (r.pathWith direct) (r.pathWith direct) := by
  refine .bind (.operator? "::" (by decide) (by decide)) fun _ ↦
    .bind (hr.segment direct) fun _ ↦ .bind (hr.moreSegments direct ?_) fun _ ↦ .pure _
  have hsep : Blind k inner (Ahead.operator "::") := Ahead.operator_blind (by decide)
  exact hsep.andDrop (Ahead.operator_asks (by decide)) (.not (Ahead.group_blind _))

theorem Steady.path : Follows k inner most r.path r.path := hr.pathWith true

theorem Steady.qualified (direct : Bool) :
    Follows k inner most (r.qualified direct) (r.qualified direct) := by
  refine .bind (follows_operator (by decide)) fun _ ↦ .bind (hr.type _ _ _ _) fun t ↦
    .bind (.keyword? _) fun _ ↦ ?_
  dsimp only
  refine .ite (.bind hr.path fun _ ↦ .bind (.pure _) fun as ↦ ?_) (.bind (.pure _) fun as ↦ ?_)
  all_goals
    refine .bind (follows_operator (by decide)) fun _ ↦ .bind (follows_operator (by decide)) fun _ ↦
      .bind (hr.segment direct) fun _ ↦ ?_
    exact .bind (hr.moreSegments direct (Ahead.operator_blind (by decide))) fun _ ↦ .pure _

end Nested

/-! ## Generics -/

theorem endsParam_blind : Blind k inner endsParam :=
  .or Ahead.atEnd_blind (Ahead.operator_blind (by decide))

theorem follows_lifetimeBounds {stop : List Tree → Bool} (hstop : Blind k inner stop) :
    Follows k inner most (do lifetimeBounds stop ((← rest).length + 1))
      (do lifetimeBounds stop ((← rest).length + 1)) := by
  refine .rounds (.bind fun _ ↦ .fail _ _) fun n m most h ↦ ?_
  refine .bind (.sees hstop) fun _ ↦ .ite (.pure _) ?_
  refine .bindProgress takesFront_lifetime.follows takesFront_lifetime.progresses fun _ ↦ ?_
  exact .bind (.operator? "+" (by decide) (by decide)) fun _ ↦
    .ite (.bind h fun _ ↦ .pure _) (.pure _)

theorem follows_lifetimeParam (attrs : Code) :
    Follows k inner most (lifetimeParam attrs) (lifetimeParam attrs) := by
  refine .bind takesFront_lifetime.follows fun _ ↦
    .bind (.operator? ":" (by decide) (by decide)) fun _ ↦ ?_
  dsimp only
  refine .ite (.roundsBind (follows_lifetimeBounds endsParam_blind) fun _ ↦ .pure _) ?_
  exact .bind (.pure _) fun _ ↦ .pure _

namespace Nested

variable {r : Nested} (hr : r.Steady)

include hr

theorem Steady.boundsUntil {stop : List Tree → Bool} (hstop : Blind k inner stop) :
    Follows k inner most (r.boundsUntil stop) (r.boundsUntil stop) := by
  refine .roundsBind (.rounds (.bind fun _ ↦ .fail _ _) fun n m most h ↦ ?_) fun _ ↦ .pure _
  refine .bind (.sees hstop) fun _ ↦ .ite (.pure _) ?_
  exact .bind (hr.bound _ _ _ _ _) fun _ ↦
    .bindOperator? (by decide) (by decide) (.bind h fun _ ↦ .pure _) (.pure _)

theorem Steady.typeParam (attrs : Code) :
    Follows k inner most (r.typeParam attrs) (r.typeParam attrs) := by
  refine .bind takesFront_name.follows fun (_, _) ↦
    .bind (.operator? ":" (by decide) (by decide)) fun _ ↦ ?_
  dsimp only
  refine .iteBind (hr.boundsUntil ?_) (.pure _) fun bounds ↦ ?_
  · exact .or endsParam_blind (Ahead.operator_blind (by decide))
  · refine .bind (.operator? "=" (by decide) (by decide)) fun _ ↦ .ite ?_ ?_
    · exact .bind (hr.type _ _ _ _) fun _ ↦ .bind (.pure _) fun _ ↦ .pure _
    · exact .bind (.pure _) fun _ ↦ .pure _

theorem Steady.constantParam (attrs : Code) :
    Follows k inner most (r.constantParam attrs) (r.constantParam attrs) := by
  refine .bind (takesFront_keyword _).follows fun _ ↦ .bind takesFront_name.follows fun (_, _) ↦
    .bind (follows_operator (by decide)) fun _ ↦ .bind (hr.type _ _ _ _) fun _ ↦
    .bind (.operator? "=" (by decide) (by decide)) fun _ ↦ ?_
  dsimp only
  refine .ite ?_ (.bind (.pure _) fun _ ↦ .pure _)
  exact .bind r.follows_constantArgument fun _ ↦ .bind (.pure _) fun _ ↦ .pure _

theorem Steady.genericParam (bound : Bool) :
    Follows k inner most (r.genericParam bound) (r.genericParam bound) := by
  refine .bind r.follows_outerCode fun attrs ↦ .ofRest (fun ts ↦ ?_) fun ts us hblind ↦ ?_
  · refine .ite (follows_lifetimeParam _) <| .ite (hr.typeParam _) <| .ite (hr.constantParam _) <|
      .ite ?_ <| .ite (.never (.want _)) (.never (.want _))
    exact .bind takesFront_anyWord.follows fun _ ↦ .pure _
  · rw [hblind Ahead.lifetime_blind, hblind Ahead.name_blind, hblind (Ahead.word_blind _),
      hblind (Ahead.word_blind _)]

theorem Steady.genericParams (bound : Bool) :
    Follows k inner most (r.genericParams bound) (r.genericParams bound) := by
  have hcomma : TakesFront (operator ",") := takesFront_operator (by decide)
  refine .bind (follows_operator (by decide)) fun _ ↦ .bind (follows_separated
    (Ahead.operator_blind (by decide)) rfl (fun _ ↦ hr.genericParam bound)
    (fun _ ↦ hcomma.follows) hcomma.progresses) fun _ ↦ ?_
  exact .bind (follows_operator (by decide)) fun _ ↦ .pure _

theorem Steady.binder? : Follows k inner most r.binder? r.binder? :=
  .bind (.keyword? _) fun _ ↦ .ite (.bind (hr.genericParams true) fun (_, _) ↦ .pure _) (.pure _)

end Nested

/-! ## Bounds -/

theorem follows_capturedParam : Follows k inner most capturedParam capturedParam := by
  refine .ofRest (fun ts ↦ ?_) fun ts us hblind ↦ ?_
  · refine .ite (.bind takesFront_lifetime.follows fun _ ↦ .pure _) (.ite ?_ (.never (.want _)))
    exact .bind takesFront_anyWord.follows fun _ ↦ .pure _
  · rw [hblind Ahead.lifetime_blind, hblind Ahead.name_blind, hblind (Ahead.word_blind _)]

theorem takesFront_captureSeparator : TakesFront captureSeparator := by
  have heq : captureSeparator =
      (do if ← sees (Ahead.operator ",") then drop 1 else want [.operator ",", .operator ">"]) := by
    funext c
    show (if Ahead.operator "," c.trees = true then operator "," else _ : Reader Unit) c =
      (if Ahead.operator "," c.trees = true then drop 1 else _ : Reader Unit) c
    split
    next h =>
      show (if Ahead.operator "," c.trees = true then drop 1 else _ : Reader Unit) c = _
      rw [if_pos h]
    next => rfl
  rw [heq]
  exact .guardedOperator (by decide) (.want _)

/-- A `use<…>` after the word. -/
def captureRest : Reader Code := do
  operator "<"
  let (params, trailing) ← separated captureSeparator (Ahead.operator ">") capturedParam
  operator ">"
  return .word "use" :: Code.angle (Code.lifetimesFirst params trailing)

theorem follows_captureRest : Follows k inner most captureRest captureRest := by
  refine .bind (follows_operator (by decide)) fun _ ↦
    .bind (follows_separated (Ahead.operator_blind (by decide)) rfl
      (fun _ ↦ follows_capturedParam) (fun _ ↦ takesFront_captureSeparator.follows)
      takesFront_captureSeparator.progresses) fun _ ↦ ?_
  exact .bind (follows_operator (by decide)) fun _ ↦ .pure _

theorem follows_capture : Follows k inner most capture capture :=
  .bind (takesFront_keyword _).follows fun _ ↦ follows_captureRest

theorem progresses_capture : Progresses capture :=
  (takesFront_keyword _).progresses.before fun _ ↦ follows_captureRest

theorem startsBound_blind (constants : Bool) : Blind k inner (startsBound constants) := by
  refine .or (.or (.or (.or (.or Ahead.anyWord_blind ?_) ?_) Ahead.lifetime_blind) ?_) ?_
  · exact Ahead.operator_blind (by decide)
  · exact Ahead.operator_blind (by decide)
  · exact Ahead.group_blind _
  · exact .and (.const _) (Ahead.group_blind _)

theorem follows_constMark (constants : Bool) :
    Follows k inner most (Nested.constMark constants) (Nested.constMark constants) := by
  refine .bind (.sees (Ahead.group_blind _)) fun _ ↦ .ite ?_ ?_
  · refine .bind (.taking (follows_group _ _)) fun ((), _) ↦ ?_
    exact .ite (.never (.andThen (.fail _ _))) (.pure _)
  · refine .bind (.sees (Ahead.word_blind _)) fun _ ↦ .ite ?_ (.pure _)
    refine .bind takesFront_anyWord.follows fun (_, _) ↦ ?_
    exact .ite (.never (.andThen (.fail _ _))) (.pure _)

/-- A bound that is a lifetime. -/
def lifetimeBound : Reader Bound := do
  match ← rest with
  | .lifetime n _ s :: _ => drop 1; return ⟨[.lifetime n], false, some s⟩
  | _ => want [.lifetime]

theorem takesFront_lifetimeBound : TakesFront lifetimeBound := by
  rintro ⟨_ | ⟨_ | ⟨n, q, s⟩ | _ | _ | _, ts⟩, scope, leftover⟩ a next h
  case cons.lifetime =>
    cases h
    exact ⟨[.lifetime n q s], List.cons_ne_nil _ _, rfl, rfl, fun _ _ _ ↦ rfl⟩
  all_goals exact absurd h (Fails.want _ _ _)

/-- A bound that is a `use<…>`. -/
def captureBound (captures : Bool) : Reader Bound := do
  let start ← here
  let (code, taken) ← taking capture
  let stop := (taken.getLast?.map Tree.span).getD start
  if !captures then fail (.notAllowed "`use<...>` precise capturing syntax") (start.to stop)
  return ⟨code, false, some stop⟩

theorem Nested.boundOf_eq (r : Nested) (captures constants : Bool) :
    r.boundOf captures constants = (do
      if ← sees Ahead.lifetime then lifetimeBound
      else if ← sees (Ahead.word "use") then captureBound captures
      else r.traitBoundOf constants) := by
  funext ⟨ts, scope, leftover⟩
  obtain _ | ⟨⟨w, s⟩ | _ | _ | _ | _, ts⟩ := ts
  case cons.word =>
    by_cases hw : w = "use"
    · subst hw
      rfl
    · have hrest : rest ⟨.word w s :: ts, scope, leftover⟩ =
          .ok (.word w s :: ts, ⟨.word w s :: ts, scope, leftover⟩) := rfl
      have hseen : ¬Ahead.word "use" (.word w s :: ts) = true := by simpa [Ahead.word] using hw
      show _ = (if Ahead.word "use" (.word w s :: ts) = true then _ else _ : Reader Bound) _
      rw [if_neg hseen, boundOf, bind_apply hrest]
      simp [hw]
  all_goals rfl

namespace Nested

variable {r : Nested} (hr : r.Steady)

include hr

theorem Steady.functionArguments :
    Follows k inner most r.functionArguments r.functionArguments := by
  refine .bind (follows_group _ _) fun _ ↦
    .bind (.operator? "->" (by decide) (by decide)) fun _ ↦ ?_
  exact .ite (.bind (hr.type _ _ _ _) fun _ ↦ .pure _) (.pure _)

theorem Steady.traitPath : Follows k inner most r.traitPath r.traitPath := by
  refine .bind hr.path fun p ↦ .ofRest (fun ts ↦ ?_) fun ts us hblind ↦ ?_
  · refine .ite ?_ (.pure _)
    exact .bind (.operator? "::" (by decide) (by decide)) fun _ ↦
      .bind hr.functionArguments fun _ ↦ .pure _
  · have hgroup : Blind k false fun ts ↦ Ahead.group .parens ts ||
        Ahead.operator "::" ts && Ahead.group .parens (ts.drop 2) := by
      refine .or (Ahead.group_blind _) (.andDrop ?_ ?_ (Ahead.group_blind _))
      · exact Ahead.operator_blind (by decide)
      · exact Ahead.operator_asks (by decide)
    rw [hblind hgroup]

theorem Steady.traitBound (constants : Bool) :
    Follows k inner most (r.traitBound constants) (r.traitBound constants) := by
  -- the place of the bound shows in an error only
  refine .bind hr.binder? fun _ ↦ .bind (follows_constMark _) fun _ ↦ .ofHere (fun place ↦ ?_) ?_
  · refine .bind (.operator? "?" (by decide) (by decide)) fun _ ↦ ?_
    refine .iteBind hr.binder? (.pure _) fun _ ↦ .bind hr.traitPath fun _ ↦ ?_
    exact .ite (.never (.andThen (.fail _ _))) (.pure _)
  · refine .bind fun _ ↦ .ite (.bind fun _ ↦ ?_) (.bind fun _ ↦ ?_)
    all_goals exact .bind fun _ ↦ .ite (.fails fun _ ↦ .andThen (.fail _ _)) (.const _)

theorem Steady.traitBoundOf (constants : Bool) :
    Follows k inner most (r.traitBoundOf constants) (r.traitBoundOf constants) := by
  refine .bind (.sees (Ahead.group_blind _)) fun _ ↦ .bind (.taking ?_) fun ((_, _), _) ↦ ?_
  · exact .ite (follows_group _ _) (hr.traitBound _)
  · exact .ite (.pure _) (.pure _)

theorem Steady.boundOf (captures constants : Bool) :
    Follows k inner most (r.boundOf captures constants) (r.boundOf captures constants) := by
  rw [boundOf_eq]
  refine .bind (.sees Ahead.lifetime_blind) fun _ ↦ .ite takesFront_lifetimeBound.follows ?_
  refine .bind (.sees (Ahead.word_blind _)) fun _ ↦ .ite ?_ (hr.traitBoundOf _)
  -- the place of the `use` is kept, and it is that of a tree of the entry
  refine .hereBind (fun start ↦ .bind (.taking follows_capture) fun (_, _) ↦ ?_) fun start ↦ ?_
  · exact .ite (.never (.andThen (.fail _ _))) (.pure _)
  · refine progresses_capture.taking.before fun (_, _) ↦ ?_
    exact .ite (.never (.andThen (.fail _ _))) (.pure _)

theorem Steady.boundList (plus captures constants : Bool) :
    Follows k inner most (r.boundList plus captures constants)
      (r.boundList plus captures constants) := by
  refine .rounds (.bind fun _ ↦ .fail _ _) fun n m most h ↦ ?_
  refine .bind (hr.bound _ _ _ _ _) fun _ ↦ .bind (.sees (Ahead.operator_blind (by decide))) fun _ ↦
    .ite ?_ (.pure _)
  have hplus : TakesFront (operator "+") := takesFront_operator (by decide)
  refine .bindProgress hplus.follows hplus.progresses fun _ ↦ ?_
  exact .bind (.sees (startsBound_blind _)) fun _ ↦ .ite (.bind h fun _ ↦ .pure _) (.pure _)

/-! ## Arguments in angle brackets -/

theorem Steady.associatedValue :
    Follows k inner most r.associatedValue r.associatedValue := by
  refine .ofTest (.or Ahead.literal_blind (Ahead.group_blind _)) r.follows_constantArgument ?_
  exact .bind (hr.type _ _ _ _) fun _ ↦ .pure _

/-- An argument has to end before the entry does, where a comma or `>` is left to end it. -/
theorem Steady.argument : Follows k k.isEntry most r.argument r.argument := by
  refine .ofRest (fun ts ↦ ?_) fun ts us hblind ↦ ?_
  · refine .ite (.bind takesFront_lifetime.follows fun _ ↦ .pure _) ?_
    refine .ite (.bind r.follows_constantArgument fun _ ↦ .pure _) ?_
    refine .bind (hr.type _ _ _ _) fun t ↦ ?_
    cases associated? t with
    | none => exact .pure _
    | some s =>
      refine .bind (.operator? "=" (by decide) (by decide)) fun _ ↦ .ite ?_ ?_
      · exact .bind hr.associatedValue fun _ ↦ .pure _
      · refine .bind (.operator? ":" (by decide) (by decide)) fun _ ↦ .ite ?_ (.pure _)
        refine .bind (hr.boundsUntil ?_) fun _ ↦ .pure _
        exact .or (Ahead.operator_blind_inner (by decide)) (Ahead.operator_blind (by decide))
  · have hlifetime : Blind k false fun ts ↦
        Ahead.lifetime ts && !Ahead.operator "+" (ts.drop 1) := by
      refine Blind.andDrop (g := fun ts ↦ !Ahead.operator "+" ts) Ahead.lifetime_blind ?_ (.not ?_)
      · exact Ahead.lifetime_asks
      · exact Ahead.operator_blind (by decide)
    have hconstant : Blind k false fun ts ↦ Ahead.literal ts || Ahead.group .braces ts :=
      .or Ahead.literal_blind (Ahead.group_blind _)
    dsimp only
    rw [hblind hlifetime, hblind hconstant]

/-- What stands between the angle brackets. -/
theorem Steady.argumentList :
    Follows k inner most (separated (operator ",") (Ahead.operator ">") r.argument)
      (separated (operator ",") (Ahead.operator ">") r.argument) := by
  have hcomma : TakesFront (operator ",") := takesFront_operator (by decide)
  exact follows_separated (Ahead.operator_blind (by decide)) rfl (fun _ ↦ hr.argument)
    (fun _ ↦ hcomma.follows) hcomma.progresses

theorem Steady.argumentsAfter (turbofish : Bool) :
    Follows k inner most (r.argumentsAfter turbofish) (r.argumentsAfter turbofish) :=
  .bind (follows_operator (by decide)) fun _ ↦ .bind hr.argumentList fun _ ↦
    .bind (follows_operator (by decide)) fun _ ↦ .pure _

theorem Steady.argumentsOf : Follows k inner most r.argumentsOf r.argumentsOf :=
  .bind (.operator? "::" (by decide) (by decide)) fun _ ↦ hr.argumentsAfter _

end Nested

/-! ## Function pointers and trait objects -/

theorem Nested.objectOf_ignoresSpan (r : Nested) (isDyn plus : Bool) :
    IgnoresSpan fun start ↦ r.objectOf isDyn start plus := by
  refine .bind fun (bs, _) ↦ ?_
  dsimp only
  cases lastNoTrait bs with
  | none => exact .const _
  | some s => exact .fails fun _ ↦ .fail _ _

namespace Nested

variable {r : Nested} (hr : r.Steady)

include hr

theorem Steady.functionPointer : Follows k inner most r.functionPointer r.functionPointer := by
  refine .bind (follows_keywordCode? _) fun _ ↦ .bind follows_abi fun _ ↦
    .bind (takesFront_keyword _).follows fun _ ↦ .bind (follows_group _ _) fun _ ↦
    .bind (.operator? "->" (by decide) (by decide)) fun _ ↦ .ite ?_ (.pure _)
  exact .bind (hr.type _ _ _ _) fun _ ↦ .pure _

theorem Steady.objectOf (isDyn : Bool) (start : Span) (plus : Bool) :
    Follows k inner most (r.objectOf isDyn start plus) (r.objectOf isDyn start plus) := by
  refine .bind (hr.boundList _ _ _) fun (bs, _) ↦ ?_
  dsimp only
  cases lastNoTrait bs with
  | none => exact .pure _
  | some s => exact .never (.fail _ _)

theorem Steady.plusBounds : Follows k inner most r.plusBounds r.plusBounds := by
  have hplus : TakesFront (operator "+") := takesFront_operator (by decide)
  refine follows_many (Ahead.operator_blind (by decide)) (fun _ ↦ ?_) ?_
  · exact .bind hplus.follows fun _ ↦ hr.bound _ _ _ _ _
  · exact hplus.progresses.before fun _ ↦ hr.bound _ _ _ _ _

theorem Steady.dynType (plus : Bool) :
    Follows k inner most (r.dynType plus) (r.dynType plus) := by
  refine .ofHere (fun start ↦ .bind (.taking ?_) fun ((_, _), _) ↦ ?_) (.andThen (.taking ?_))
  · exact .bind (takesFront_keyword _).follows fun _ ↦
      .bind (.operator? "*" (by decide) (by decide)) fun _ ↦
      .bind (hr.objectOf _ _ _) fun _ ↦ .pure _
  · exact .pure _
  · exact .bind fun _ ↦ .bind fun _ ↦ .andThen (r.objectOf_ignoresSpan _ _)

theorem Steady.implType (plus : Bool) :
    Follows k inner most (r.implType plus) (r.implType plus) := by
  refine .ofHere (fun start ↦ .bind (takesFront_keyword _).follows fun _ ↦
    .bind (hr.boundList _ _ _) fun (bs, _) ↦ ?_) (.bind fun _ ↦ .bind fun (bs, _) ↦ ?_)
  all_goals
    dsimp only
    cases lastNoTrait bs
  · exact .pure _
  · exact .never (.fail _ _)
  · exact .const _
  · exact .fails fun _ ↦ .fail _ _

end Nested

/-! ## Parentheses, brackets and paths -/

theorem startsMacro_blind : Blind k inner startsMacro :=
  .and (Ahead.operator_blind (by decide)) (.not (Ahead.operator_blind (by decide)))

theorem Nested.follows_bracketType (r : Nested) :
    Follows k inner most r.bracketType r.bracketType :=
  follows_group _ _

namespace Nested

variable {r : Nested} (hr : r.Steady)

include hr

theorem Steady.parenType (plus : Bool) :
    Follows k inner most (r.parenType plus) (r.parenType plus) := by
  have hobject : ∀ b, Follows k inner most
      (do return Ty.object false (b :: (← r.plusBounds)) false)
      (do return Ty.object false (b :: (← r.plusBounds)) false) :=
    fun b ↦ .bind hr.plusBounds fun bs ↦ .pure _
  refine .bind (follows_group _ _) fun inside ↦ ?_
  cases inside with
  | tuple elems trailing => exact .pure _
  | object t => exact .pure _
  | relaxed code => exact hobject _
  | single t =>
    dsimp only
    cases asBound? t with
    | none => exact .pure _
    | some b =>
      refine .bind (.sees (Ahead.operator_blind (by decide))) fun _ ↦ .ite (hobject b) (.pure _)

theorem Steady.pathType (lifetimes : Option Code) (plus : Bool) :
    Follows k inner most (r.pathType lifetimes plus) (r.pathType lifetimes plus) := by
  refine .bind hr.path fun p ↦ .bind (.sees startsMacro_blind) fun _ ↦ ?_
  refine .ite (.bind follows_macroRest fun (_, _) ↦ .pure _) ?_
  refine .bind (.sees (Ahead.operator_blind (by decide))) fun _ ↦ .ite ?_ (.pure _)
  refine .bind (.sees (Ahead.operator_blind (by decide))) fun _ ↦ .ite ?_ (.pure _)
  refine .bind (follows_operator (by decide)) fun _ ↦ .bind (.sees (startsBound_blind _)) fun _ ↦ ?_
  exact .ite (.bind (hr.boundList _ _ _) fun (_, _) ↦ .pure _) (.pure _)

theorem Steady.pointerType : Follows k inner most r.pointerType r.pointerType := by
  refine .bind (follows_operator (by decide)) fun _ ↦ .bind (.sees (Ahead.oneOf_blind _)) fun _ ↦ ?_
  refine .ite (.never (.andThen (.want _))) ?_
  exact .bind takesFront_anyWord.follows fun (_, _) ↦ .bind (hr.type _ _ _ _) fun _ ↦ .pure _

theorem Steady.referenceType : Follows k inner most r.referenceType r.referenceType :=
  .bind (follows_operator (by decide)) fun _ ↦ .bind .lifetime? fun _ ↦
    .bind (.keyword? _) fun _ ↦ .bind (hr.type _ _ _ _) fun _ ↦ .pure _

end Nested

/-! ## Types -/

theorem startsBuiltIn_blind : Blind k inner startsBuiltIn :=
  .andDrop (Ahead.word_blind _) (Ahead.word_asks _)
    (Ahead.operator_blind (by decide))

theorem startsPath_blind : Blind k inner startsPath :=
  .or (.or Ahead.name_blind (Ahead.oneOf_blind _)) (Ahead.operator_blind (by decide))

theorem binderFollowers_blind : Blind k inner fun ts ↦ binderFollowers.any (Ahead.sees · ts) :=
  .or Ahead.name_blind (.or (Ahead.word_blind _) (.or (Ahead.word_blind _) (.or (Ahead.word_blind _)
    (.or (Ahead.word_blind _) (.or (Ahead.word_blind _) (.or (Ahead.word_blind _)
    (.or (Ahead.word_blind _) (.const _))))))))

namespace Nested

variable {r : Nested} (hr : r.Steady)

include hr

theorem Steady.typeAfter (lifetimes : Option Code) (plus : Bool) :
    Follows k inner most (r.typeAfter lifetimes plus) (r.typeAfter lifetimes plus) := by
  refine .ofRest (fun ts ↦ ?_) fun ts us hblind ↦ ?_
  · refine .ite (hr.parenType _) ?_
    refine .ite (.bind hr.functionPointer fun _ ↦ .pure _) ?_
    refine .ite (.bind follows_builtIn fun _ ↦ .pure _) ?_
    refine .ite (.bind (hr.qualified _) fun (_, _) ↦ .pure _) ?_
    refine .ite (hr.pathType _ _) <| .ite (hr.dynType _) <| .ite r.follows_bracketType <|
      .ite hr.pointerType <| .ite hr.referenceType ?_
    refine .ite (.bind (follows_operator (by decide)) fun _ ↦ .pure _) ?_
    refine .ite (hr.implType _) ?_
    refine .ite (.bind takesFront_anyWord.follows fun _ ↦ .pure _) ?_
    refine .ite (.ofHere (fun _ ↦ hr.objectOf _ _ _) (r.objectOf_ignoresSpan _ _)) ?_
    exact .never (.want _)
  · have hoperator : ∀ {op : String}, ',' ∉ op.toList ∧ '>' ∉ op.toList.dropLast →
        Ahead.operator op us = Ahead.operator op ts :=
      fun h ↦ hblind (Ahead.operator_blind h)
    simp only [hblind (Ahead.group_blind _), hblind (Ahead.oneOf_blind _),
      hblind startsBuiltIn_blind, hblind startsPath_blind, hblind (Ahead.word_blind _),
      hblind Ahead.lifetime_blind]
    rw [hoperator (by decide), hoperator (by decide), hoperator (by decide), hoperator (by decide)]

theorem Steady.typeOf (plus : Bool) :
    Follows k inner most (r.typeOf plus) (r.typeOf plus) := by
  refine .bind hr.binder? fun lifetimes ↦ .bind (.sees binderFollowers_blind) fun _ ↦ ?_
  exact .ite (.never (.andThen (.want _))) (hr.typeAfter _ _)

omit hr in
/-- Readers of parts to any depth do not look at what comes after an entry. -/
theorem steady_nestedTo (depth : Nat) : (nestedTo depth).Steady := by
  induction depth with
  | zero =>
    have hstop : ∀ {α : Type}, Fails (α := α) (do fail .tooDeep (← here)) :=
      .bind fun _ ↦ .fail _ _
    exact ⟨fun _ _ _ _ ↦ .never hstop, fun _ _ _ ↦ .never hstop, fun _ _ _ _ _ ↦ .never hstop⟩
  | succ depth ih =>
    exact ⟨fun plus _ _ _ ↦ ih.typeOf plus, fun _ _ _ ↦ ih.argumentsOf,
      fun captures constants _ _ _ ↦ ih.boundOf captures constants⟩

end Nested

/-- What type is read in an entry does not depend on what comes after the entry. -/
theorem follows_type : Follows k inner most type type :=
  (Nested.steady_nestedTo deepest).type true k inner most

theorem shrinks_type : Shrinks type := (follows_type : Follows .entry false 0 type type).shrinks

end TypedIds.Grammar
