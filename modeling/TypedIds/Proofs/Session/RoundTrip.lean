import TypedIds.Catalogue
import TypedIds.Proofs.Session.Settled

/-!
# The text of an identifier

A scalar identifier is written as the text of its value, and that text is read as the value.  What
comes of reading it is then up to the hook of the type, which sees the value once more: reading the
text of an identifier is the same as making an identifier of its value.

An identifier that was made is not always made again.  The value it wraps has passed the hook once,
but a hook need not take what it has made, or may change it another time; and the unspecified
identifier of a type whose hook rejects the empty value has not passed it at all.
`HookFunction.Keeps` is what a hook has to do with a value for the way through the text to end where
it began.

* `Shape.display_plain`, `Shape.read_digits` — the display text is the text of the value, and the
  digits of a UUID, in letters of either case, are read as that UUID.
* `Family.throughText_settles` — the way through the text settles the verdict on the value.
* **`Session.Reachable.throughText_agrees`**: all of it, in any reachable session.
-/

set_option autoImplicit false

namespace TypedIds

variable {Key : Type}

/-! ## The texts of a value -/

/-- The plain format leaves a text as it is. -/
theorem Text.Format.text_plain (s : List Char) : Text.Format.plain.text s = s := by
  simp [text, field, plain]

namespace Shape

variable {values : Key → ValueType Key} {t : ValueType Key} {shape : Shape values t}
  {s : ScalarValue t.Val}

/-- The display text of a scalar value is its text. -/
theorem display_plain (hs : shape.scalar? = some s) (v : t.Val) :
    t.display .plain v = (s.write v).toList := by
  cases shape with
  | guid =>
    obtain rfl := Option.some.inj hs
    simp [ValueType.display, ScalarValue.uuid]
  | text =>
    obtain rfl := Option.some.inj hs
    exact Text.Format.text_plain v.toList
  | combined ps => cases hs

/-- The digits of a value are read as the value, in letters of either case. -/
theorem read_digits (hs : shape.scalar? = some s) {letters : Text.LetterCase} {v : t.Val}
    {text : List Char} (h : AnyIdentifier.hex?.digits letters t v = some text) :
    s.read (String.ofList text) = .ok v := by
  cases shape with
  | guid =>
    obtain rfl := Option.some.inj hs
    obtain rfl := Option.some.inj h
    simp only [ScalarValue.uuid, String.toList_ofList]
    exact Uuid.read_write letters v
  | text => cases h
  | combined ps => cases hs

/-- A UUID has digits. -/
theorem isSome_digits (hk : shape.kind = .guid) (letters : Text.LetterCase) (v : t.Val) :
    (AnyIdentifier.hex?.digits letters t v).isSome = true := by
  cases shape with
  | guid => rfl
  | text | combined ps => cases hk

end Shape

/-! ## The way through the text -/

/-- A hook takes a value and leaves it as it is. -/
def HookFunction.Keeps {α : Type} (h : HookFunction α) (v : α) : Prop := h.apply v = .ok v

namespace Family

variable [DecidableEq Key] {F : Family Key} {k : Key} {s : ScalarValue (F.Raw k)}

/-- Writing an identifier, and reading the text. -/
def throughText (F : Family Key) (k : Key) (s : ScalarValue (F.Raw k)) (id : F.Id k) :
    Run F (Made F k) := do
  F.fromString k s (← F.toText k s id)

/-- The way through the text settles the verdict on the value. -/
theorem throughText_settles (hs : (F.shape k).scalar? = some s) (id : F.Id k) :
    (F.throughText k s id).Settles (F.verdict k id.value) := by
  have hread := fromString_settles hs (s.write id.value)
  rw [reading_write (Shape.scalar?_lawful hs)] at hread
  exact (toText_settles id).bind hread

end Family

namespace Session

variable [DecidableEq Key] {F : Family Key}

/-- **Reading the text of an identifier comes to what making one of its value comes to**, in every
reachable session: the identifier itself if the type has no hook, and with a hook exactly if the
hook keeps the value.  The display text is that text.  An identifier of a generated UUID type can
also be written in digits with letters of either case, and these texts come to the same thing. -/
theorem Reachable.throughText_agrees {σ : Session F} (hσ : σ.Reachable) {k : Key}
    {s : ScalarValue (F.Raw k)} (hs : (F.shape k).scalar? = some s) (id : F.Id k) :
    let back := ((F.throughText k s id).run σ.state).1
    let a : AnyIdentifier F := ⟨k, id⟩
    back = ((F.tryFromValue k s id.value).run σ.state).1 ∧
      (F.hook k = none → back = .ok id) ∧
      (∀ h, F.hook k = some h → (back = .ok id ↔ h.Keeps id.value)) ∧
      a.render? (.display .plain) = some (s.write id.value).toList ∧
      (F.origin k = .generated → F.kind k = .guid → ∀ letters, ∃ text,
        a.render? (.hex letters) = some text ∧
          ((F.parse k s (String.ofList text)).run σ.state).1 =
            ((F.parse k s (s.write id.value)).run σ.state).1) := by
  intro back a
  have hback : back = F.verdict k id.value := (Family.throughText_settles hs id _ hσ.sound).1
  refine ⟨?_, fun hk ↦ ?_, fun h hk ↦ ?_, ?_, fun ho hk letters ↦ ?_⟩
  · rw [hback, (Family.tryFromValue_settles hs id.value _ hσ.sound).1]
  · rw [hback, Family.verdict_of_no_hook hk]
  · rw [hback, Family.verdict_eq_ok_iff hk, HookFunction.Keeps]
  · exact congrArg some (Shape.display_plain hs id.value)
  · have hhex : a.render? (.hex letters) =
        AnyIdentifier.hex?.digits letters (F.values k) id.value := by
      simp only [a, AnyIdentifier.render?, AnyIdentifier.hex?, ho]
    obtain ⟨text, htext⟩ := Option.isSome_iff_exists.1 (Shape.isSome_digits hk letters id.value)
    refine ⟨text, hhex.trans htext, ?_⟩
    have hread : F.reading k s (String.ofList text) = F.reading k s (s.write id.value) := by
      rw [Family.reading, Family.reading, Shape.read_digits hs htext,
        (Shape.scalar?_lawful hs).read_write]
    rw [(Family.parse_settles hs _ _ hσ.sound).1, (Family.parse_settles hs _ _ hσ.sound).1, hread]

/-- The hook of live identifiers keeps a UUID whose first byte is clear, and rejects the nil UUID,
which the unspecified identifier wraps. -/
theorem throughText_agrees_liveId :
    let state := (Session.start Catalogue.family []).state
    let live : Catalogue.family.Id .liveId := ⟨⟨0xab⟩⟩
    ((Catalogue.family.throughText .liveId .uuid live).run state).1 = .ok live ∧
      ((Catalogue.family.throughText .liveId .uuid ⟨Uuid.nil⟩).run state).1 ≠ .ok ⟨Uuid.nil⟩ ∧
      ∃ text, (⟨.liveId, live⟩ : AnyIdentifier Catalogue.family).render? (.hex .capital) =
          some text ∧
        ((Catalogue.family.parse .liveId .uuid (String.ofList text)).run state).1 =
          ((Catalogue.family.parse .liveId .uuid (ScalarValue.uuid.write ⟨0xab⟩)).run state).1 := by
  intro state live
  have hscalar : (Catalogue.family.shape .liveId).scalar? = some ScalarValue.uuid := rfl
  have hstart : (Session.start Catalogue.family []).Reachable := .start []
  obtain ⟨-, -, hkeeps, -, hhex⟩ := hstart.throughText_agrees hscalar live
  obtain ⟨-, -, hnil, -⟩ := hstart.throughText_agrees hscalar ⟨Uuid.nil⟩
  refine ⟨(hkeeps Catalogue.liveHook rfl).2 rfl, fun h ↦ ?_, hhex rfl rfl .capital⟩
  exact nomatch (hnil Catalogue.liveHook rfl).1 h

end Session

end TypedIds
