import TypedIds.Proofs.Marker.Surrounding
import TypedIds.Proofs.Text.Convention

/-!
# Property names in every convention

A property may be spelled in any convention: `TenantId`, `tenantId`, `tenant-id`, `TENANT_ID` and
`tenant_id` all name it `tenant_id`.  So it does not matter in which convention the option `value`
is given: the arguments that hold it are read alike, and the accessor, which is the only component
of a scalar identifier, has the same name (`propertyName_spell`).

A list of several words is never a keyword, since no keyword has an underscore between letters.  A
single word may be one, and then it is refused in the same way however it is spelled.
-/

set_option autoImplicit false

namespace TypedIds

open Text (Convention IsLongWord)

/-- What fails at first fails. -/
theorem Reader.bind_error {α β : Type} {p : Reader α} {f : α → Reader β} {c : Cursor}
    {d : Diagnostic} (h : p c = .error d) : (p >>= f) c = .error d := by
  show Except.bind (p c) _ = _
  rw [h]
  rfl

/-! ## Names -/

/-- Words joined with `_`. -/
def joined (ws : List (List Char)) : String := String.ofList (['_'].intercalate ws)

/-- Whether a list of words is one keyword. -/
def isKeyword : List (List Char) → Bool
  | [w] => keywords.contains (String.ofList w)
  | _ => false

section

variable {ws : List (List Char)} (hne : ws ≠ []) (hws : ∀ w ∈ ws, IsLongWord w)
include hne hws

/-- Joined words are a keyword only if there is one of them, and it is one. -/
theorem joined_mem_keywords_iff : joined ws ∈ keywords ↔ isKeyword ws = true := by
  match ws, hne with
  | [w], _ => rw [joined, List.intercalate_singleton, isKeyword, List.contains_iff_mem]
  | w :: v :: vs, _ =>
    -- The underscore stands after a letter, and the only keyword with one is `_` itself.
    refine iff_of_false (fun hkeyword ↦ ?_) (by simp [isKeyword])
    have hunderscores : (keywords.all fun k ↦
        !k.toList.contains '_' || decide (k.toList.length ≤ 1)) = true := by decide +kernel
    have hmem : '_' ∈ ['_'].intercalate (w :: v :: vs) := by
      simp [List.intercalate_cons_cons]
    have hlength : 2 ≤ (['_'].intercalate (w :: v :: vs)).length := by
      have hw := (hws w List.mem_cons_self).two_le_length
      simp only [List.intercalate_cons_cons, List.length_append]
      omega
    have hcontains : (['_'].intercalate (w :: v :: vs)).contains '_' = true :=
      List.contains_iff_mem.2 hmem
    have hnot := List.all_eq_true.1 hunderscores _ hkeyword
    rw [joined, String.toList_ofList, hcontains, Bool.not_true, Bool.false_or,
      decide_eq_true_eq] at hnot
    omega

/-- A spelling is named by the words that it spells, unless they are a keyword. -/
theorem propertyName_spell_eq_ok_iff (conv : Convention) (name : String) :
    propertyName (String.ofList (conv.spell ws)) = .ok name ↔
      name = joined ws ∧ isKeyword ws = false := by
  have hsnake : Text.snakeCase (String.ofList (conv.spell ws)).toList = ['_'].intercalate ws := by
    rw [String.toList_ofList, Convention.snakeCase_spell hws hne]
  obtain ⟨c, cs, hfirst, hc⟩ : ∃ c cs, ['_'].intercalate ws = c :: cs ∧ c.isDigit = false := by
    obtain ⟨w, vs, rfl⟩ := List.exists_cons_of_ne_nil hne
    have hw := hws w List.mem_cons_self
    obtain ⟨c, d, cs, rfl⟩ := hw.exists_cons_cons
    have hdigit := (hw.isSmall List.mem_cons_self).isDigit
    cases vs <;> exact ⟨c, _, rfl, hdigit⟩
  have hkeyword := joined_mem_keywords_iff hne hws
  rw [propertyName_eq_ok_iff_of_joined (fun w hw ↦ (hws w hw).isRun) hsnake, hsnake, ← joined]
  constructor
  · rintro ⟨rfl, -, -, hname⟩
    exact ⟨rfl, Bool.eq_false_iff.2 (mt hkeyword.2 hname)⟩
  · rintro ⟨rfl, hname⟩
    exact ⟨rfl, by simp [hfirst], by simp [hfirst, hc], mt hkeyword.1 (Bool.eq_false_iff.1 hname)⟩

/-- A keyword is refused in the same way however it is spelled. -/
theorem propertyName_spell_of_isKeyword (hkeyword : isKeyword ws = true) (conv : Convention) :
    propertyName (String.ofList (conv.spell ws)) = .error (.propertyInvalid (joined ws)) := by
  have hnot : ∀ name, propertyName (String.ofList (conv.spell ws)) ≠ .ok name := by
    intro name hname
    have hplain := ((propertyName_spell_eq_ok_iff hne hws conv name).1 hname).2
    rw [hkeyword] at hplain
    cases hplain
  have hnonempty : (joined ws).isEmpty = false := by
    obtain ⟨w, vs, rfl⟩ := List.exists_cons_of_ne_nil hne
    obtain ⟨c, d, cs, rfl⟩ := (hws w List.mem_cons_self).exists_cons_cons
    cases vs <;> simp [joined, List.intercalate_cons_cons]
  rw [propertyName, String.toList_ofList, Convention.snakeCase_spell hws hne, ← joined] at hnot ⊢
  rw [if_neg (Bool.eq_false_iff.1 hnonempty)] at hnot ⊢
  split
  next hname => exact absurd (if_pos hname) (hnot _)
  next => rfl

/-- **The name of a property does not depend on the convention in which it is spelled.** -/
theorem propertyName_spell_eq (conv : Convention) :
    propertyName (String.ofList (conv.spell ws)) =
      if isKeyword ws then .error (.propertyInvalid (joined ws)) else .ok (joined ws) := by
  cases hkeyword : isKeyword ws with
  | true => exact propertyName_spell_of_isKeyword hne hws hkeyword conv
  | false => exact (propertyName_spell_eq_ok_iff hne hws conv _).2 ⟨rfl, hkeyword⟩

end

/-! ## The option `value` -/

/-- A string literal whose value is a spelling of some words. -/
def SpellsWords (ws : List (List Char)) (text : String) : Prop :=
  ∃ l conv, TextLiteral.ofText? text = some l ∧ l.value = String.ofList (Convention.spell conv ws)

/-- The trees of the option `value`. -/
def valueOption (s : Span) (joined : Bool) (sign : Span) (text : String) (place : Span) :
    List Tree :=
  [.word "value" s, .mark '=' joined sign, .literal text place]

variable {s sign place : Span} {joint : Bool} {text : String} {e : MarkerEntry}

theorem isTextOption_valueOption : IsTextOption (valueOption s joint sign text place) :=
  ⟨_, _, _, _, _, _, by decide, rfl⟩

/-- The option `value` spells the name of the accessor. -/
theorem spelled_valueOption_iff :
    e.Spelled (valueOption s joint sign text place) ↔
      ∃ l name, TextLiteral.ofText? text = some l ∧ propertyName l.value = .ok name ∧
        e = .value name place := by
  constructor
  · intro he
    generalize hts : valueOption s joint sign text place = ts at he
    cases he <;> simp only [valueOption, List.cons.injEq, Tree.word.injEq, Tree.mark.injEq,
      Tree.literal.injEq, reduceCtorEq, false_and, and_false] at hts
    case value htext hname =>
      obtain ⟨-, -, ⟨rfl, rfl⟩, -⟩ := hts
      exact ⟨_, _, htext, hname, rfl⟩
    case component => exact absurd hts.2.1.1 (by decide)
    all_goals exact absurd hts.1.1 (by decide)
  · rintro ⟨l, name, htext, hname, rfl⟩
    exact .value htext hname

namespace MarkerArgs

/-- The same arguments, the accessor being named at another place. -/
def withPropertySpan (kind : MarkerKind) (place : Span) (m : MarkerArgs) : MarkerArgs :=
  let options := { m.options with propertySpan := place }
  { m with
    options
    components := if kind.isScalar then [scalarComponent kind options] else m.components }

section

variable {kind : MarkerKind} {span s' sign' place' : Span} {joint' : Bool} {text' : String}
  {l l' : TextLiteral} {front back : List Tree} (htext : TextLiteral.ofText? text = some l)
  (htext' : TextLiteral.ofText? text' = some l') (hname : propertyName l.value = propertyName l'.value)
include htext htext' hname

/-- What arguments say with one text they say with another one that names the same property. -/
theorem read_valueOption_eq_ok {m : MarkerArgs} (hfront : BeforeEntry front)
    (hm : read kind (front ++ (valueOption s' joint' sign' text' place' ++ back)) span = .ok m) :
    read kind (front ++ (valueOption s joint sign text place ++ back)) span =
      .ok (m.withPropertySpan kind place) := by
  obtain ⟨x, others, hx, rfl, hreplace⟩ := exists_read_replace hfront isTextOption_valueOption hm
  obtain ⟨k, name, hk, hok, rfl⟩ := spelled_valueOption_iff.1 hx
  obtain rfl : l' = k := Option.some.inj (htext'.symm.trans hk)
  have hy : (MarkerEntry.value name place).Spelled (valueOption s joint sign text place) :=
    spelled_valueOption_iff.2 ⟨l, name, htext, hname.trans hok, rfl⟩
  rw [hreplace _ _ isTextOption_valueOption hy rfl, withPropertySpan, ofInserted, ofInserted]
  cases kind.isScalar <;> rfl

/-- **If two texts name the same property, then arguments are read alike with either of them**:
only the place of the name differs. -/
theorem read_valueOption (hfront : BeforeEntry front) :
    (read kind (front ++ (valueOption s joint sign text place ++ back)) span).toOption =
      (read kind (front ++ (valueOption s' joint' sign' text' place' ++ back)) span).toOption.map
        (withPropertySpan kind place) := by
  cases hm : read kind (front ++ (valueOption s' joint' sign' text' place' ++ back)) span with
  | ok m => rw [read_valueOption_eq_ok htext htext' hname hfront hm]; rfl
  | error d =>
    cases hm' : read kind (front ++ (valueOption s joint sign text place ++ back)) span with
    | error d' => rfl
    | ok m =>
      rw [read_valueOption_eq_ok htext' htext hname.symm hfront hm'] at hm
      cases hm

end

/-- Arguments that are only the option `value` fail like the name of the property. -/
theorem read_valueOption_of_error {kind : MarkerKind} {span : Span} {l : TextLiteral} {p : Problem}
    (htext : TextLiteral.ofText? text = some l) (hname : propertyName l.value = .error p) :
    read kind (valueOption s joint sign text place) span = .error ⟨p, place⟩ := by
  have hvalue : Grammar.optionText "value" s
      ⟨[.mark '=' joint sign, .literal text place], .nowhere, none⟩ =
        .ok ((l, place), ⟨[], .nowhere, none⟩) :=
    Grammar.optionText_eq_ok_iff.2 ⟨joint, sign, text, htext, rfl⟩
  have hoption : Grammar.option .empty ⟨valueOption s joint sign text place, .nowhere, none⟩ =
      .error ⟨p, place⟩ := by
    rw [Grammar.option, valueOption, Reader.bind_apply (Reader.anyWord_apply ..)]
    dsimp only
    rw [if_pos (beq_self_eq_true _), Reader.bind_apply hvalue]
    dsimp only
    rw [hname]
    rfl
  have hentry : Grammar.entry .empty ⟨valueOption s joint sign text place, .nowhere, none⟩ =
      .error ⟨p, place⟩ := by
    have hcomponent : Grammar.startsComponent (valueOption s joint sign text place) = false :=
      by cbv
    rw [Grammar.entry, Reader.bind_apply (rfl : Reader.sees _ _ = _), hcomponent]
    exact hoption
  have hentries : Grammar.entries ⟨valueOption s joint sign text place, .nowhere, none⟩ =
      .error ⟨p, place⟩ := by
    rw [Grammar.entries, Reader.bind_apply (rfl : Reader.rest _ = _), Grammar.entriesFor,
      Reader.bind_apply (rfl : Reader.atEnd _ = _)]
    exact Reader.bind_error hentry
  rw [read, Reader.run, hentries]
  rfl

/-- Arguments that are only the option `value`. -/
theorem read_valueOption_alone {kind : MarkerKind} {span : Span} {l : TextLiteral}
    (htext : TextLiteral.ofText? text = some l) :
    read kind (valueOption s joint sign text place) span =
      match propertyName l.value with
      | .error p => .error ⟨p, place⟩
      | .ok name =>
        let o := { Options.default with valueProperty := name, propertySpan := place }
        .ok ⟨if kind.isScalar then [scalarComponent kind o] else [], o, span⟩ := by
  cases hname : propertyName l.value with
  | error p => exact read_valueOption_of_error htext hname
  | ok name =>
    have hspelled : (MarkerEntry.value name place).Spelled (valueOption s joint sign text place) :=
      spelled_valueOption_iff.2 ⟨l, name, htext, hname, rfl⟩
    exact read_iff_spelled.2 ⟨_, .last hspelled, List.nodup_singleton _, fun _ ↦ rfl, rfl⟩

end MarkerArgs

/-- **A property is named alike in every convention**, for words of two or more small letters: by
the words with `_` between them, or it is refused with the same problem if there is one word and it
is a keyword.  So the option `value` alone says the same in every convention, and other arguments
that have it are read alike, or fail alike: only the place of the name may differ. -/
theorem propertyName_spell {ws : List (List Char)} (hne : ws ≠ [])
    (hws : ∀ w ∈ ws, IsLongWord w) :
    (∀ conv : Convention, propertyName (String.ofList (conv.spell ws)) =
      if isKeyword ws then .error (.propertyInvalid (joined ws)) else .ok (joined ws)) ∧
    (∀ kind text s joint sign place span, SpellsWords ws text →
      MarkerArgs.read kind (valueOption s joint sign text place) span =
        if isKeyword ws then .error ⟨.propertyInvalid (joined ws), place⟩
        else
          let o := { Options.default with valueProperty := joined ws, propertySpan := place }
          .ok ⟨if kind.isScalar then [scalarComponent kind o] else [], o, span⟩) ∧
    ∀ kind text text' s s' joint joint' sign sign' place place' span front back,
      SpellsWords ws text → SpellsWords ws text' → BeforeEntry front →
      (MarkerArgs.read kind (front ++ (valueOption s joint sign text place ++ back))
          span).toOption =
        (MarkerArgs.read kind (front ++ (valueOption s' joint' sign' text' place' ++ back))
          span).toOption.map (MarkerArgs.withPropertySpan kind place) := by
  refine ⟨propertyName_spell_eq hne hws, ?_, ?_⟩
  · rintro kind text s joint sign place span ⟨l, conv, htext, hvalue⟩
    rw [MarkerArgs.read_valueOption_alone htext, hvalue, propertyName_spell_eq hne hws conv]
    cases isKeyword ws <;> rfl
  · rintro kind text text' s s' joint joint' sign sign' place place' span front back
      ⟨l, conv, htext, hvalue⟩ ⟨l', conv', htext', hvalue'⟩ hfront
    refine MarkerArgs.read_valueOption htext htext' ?_ hfront
    rw [hvalue, hvalue', propertyName_spell_eq hne hws conv, propertyName_spell_eq hne hws conv']

/-- The property `TenantId`, which is `tenant-id` too, in arguments that end in a comma. -/
theorem propertyName_tenantId :
    let ws := [['t', 'e', 'n', 'a', 'n', 't'], ['i', 'd']]
    ws ≠ [] ∧ (∀ w ∈ ws, IsLongWord w) ∧ SpellsWords ws "\"TenantId\"" ∧
      SpellsWords ws "\"tenant-id\"" ∧ BeforeEntry [] ∧
      propertyName "tenantId" = .ok "tenant_id" ∧
      (MarkerArgs.read .guid (valueOption .nowhere false .nowhere "\"TenantId\"" .nowhere ++
          [.mark ',' false .nowhere]) .nowhere).toOption =
        (MarkerArgs.read .guid (valueOption .nowhere false .nowhere "\"tenant-id\"" .nowhere ++
          [.mark ',' false .nowhere]) .nowhere).toOption.map
          (MarkerArgs.withPropertySpan .guid .nowhere) := by
  intro ws
  have hne : ws ≠ [] := List.cons_ne_nil _ _
  have hws : ∀ w ∈ ws, IsLongWord w := by
    intro w hw
    obtain rfl | rfl := List.mem_pair.1 hw <;> exact ⟨by decide, List.all_eq_true.1 rfl⟩
  have hpascal : SpellsWords ws "\"TenantId\"" := ⟨⟨"TenantId", ""⟩, .pascal, rfl, rfl⟩
  have hkebab : SpellsWords ws "\"tenant-id\"" := ⟨⟨"tenant-id", ""⟩, .kebab, rfl, rfl⟩
  have hfront : BeforeEntry [] := .inl ⟨[], .nil⟩
  obtain ⟨hname, -, hread⟩ := propertyName_spell hne hws
  exact ⟨hne, hws, hpascal, hkebab, hfront, hname .camel,
    hread .guid _ _ _ _ _ _ _ _ _ _ _ [] _ hpascal hkebab hfront⟩

end TypedIds
