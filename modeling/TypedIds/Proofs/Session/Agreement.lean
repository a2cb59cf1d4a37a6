import TypedIds.Catalogue
import TypedIds.Proofs.Session.Settled

/-!
# All ways to an identifier agree

A scalar identifier type offers many entries: its constructor, the conversions from a value, and
those from a text.  Given the same value they come to the same thing, in every reachable session and
for every hook: identifiers of one value, or rejections of one cause.  A type without a hook has a
shortcut for the empty value in some of its entries, and it makes no difference.
-/

set_option autoImplicit false

namespace TypedIds

variable {Key : Type} [DecidableEq Key] {F : Family Key}

namespace Entry

/-- The entry is given the value `v`: data that stand for it, or the text of it. -/
def Gives (slots : List (AnyIdentifier F)) {k : Key} (s : ScalarValue (F.Raw k)) (entry : Entry)
    (d : Data) (v : F.Raw k) : Prop :=
  match entry with
  | .new | .newText | .fromValue | .fromText | .tryFromValue =>
    (F.shape k).ofData? slots d = some v
  | .parse | .convert | .fromString => d = .text (s.write v)
  | .default | .unspecified => False

variable {slots : List (AnyIdentifier F)} {k : Key} {s : ScalarValue (F.Raw k)}

/-- The text of a value stands for the value. -/
theorem ofData?_write {t : ValueType Key} {shape : Shape F.values t} {s : ScalarValue t.Val}
    (hs : shape.scalar? = some s) (v : t.Val) :
    shape.ofData? slots (.text (s.write v)) = some v := by
  cases shape with
  | guid =>
    obtain rfl := Option.some.inj hs
    simp only [Shape.ofData?, ValueType.ofData?, ScalarValue.uuid, String.toList_ofList]
    rw [Uuid.read_write]
    rfl
  | text =>
    obtain rfl := Option.some.inj hs
    rfl
  | combined ps => simp [Shape.scalar?] at hs

/-- The text of a value gives it to every entry that takes a value. -/
theorem gives_write (hs : (F.shape k).scalar? = some s) {entry : Entry}
    (hentry : entry ≠ .default ∧ entry ≠ .unspecified) (v : F.Raw k) :
    entry.Gives slots s (.text (s.write v)) v := by
  cases entry <;> simp only [Gives]
  case new | newText | fromValue | fromText | tryFromValue => exact ofData?_write hs v
  case default => exact hentry.1 rfl
  case unspecified => exact hentry.2 rfl

/-- An entry that is given a value comes to the verdict on it. -/
theorem outcome_of_gives (hs : (F.shape k).scalar? = some s) {entry : Entry} {d : Data}
    {v : F.Raw k} (hgives : entry.Gives slots s d v)
    (hoffered : entry.isOffered (F.origin k) (F.kind k) = true) :
    entry.outcome slots k (some d) = .ok (F.verdict k v) := by
  have hread := Family.reading_write (Shape.scalar?_lawful hs) v
  cases entry <;> simp only [Gives] at hgives <;>
    simp only [outcome, hoffered, if_true, Option.bind_some, hs]
  case new | newText | fromValue | fromText | tryFromValue => rw [hgives, given]
  case parse | convert | fromString => rw [hgives, Data.text?, given, hread]

end Entry

namespace Session

/-- **All ways to an identifier agree.**  In a reachable session every entry of a generated scalar
type that is given the value `v`, as the text of it does, comes to the same thing: identifiers of
one value, which is `v` if there is no hook and what the hook makes of `v` otherwise, or rejections
with the name of the type and the cause that the hook gives.  What is made of the empty value is
unspecified. -/
theorem Reachable.entries_agree {s : Session F} (hs : s.Reachable) {k : Key}
    (hk : F.origin k = .generated) {sv : ScalarValue (F.Raw k)}
    (hsv : (F.shape k).scalar? = some sv) (v : F.Raw k) :
    ∃ made : Made F k,
      ((F.new k v).run s.state).1 = made ∧ ((F.tryFromValue k sv v).run s.state).1 = made ∧
      ((F.fromValue k sv v).run s.state).1 = made ∧
      ((F.parse k sv (sv.write v)).run s.state).1 = made ∧
      ((F.fromString k sv (sv.write v)).run s.state).1 = made ∧
      (∀ entry : Entry, entry ≠ .default ∧ entry ≠ .unspecified →
        entry.Gives s.slots sv (.text (sv.write v)) v) ∧
      (∀ entry d, entry.Gives s.slots sv d v →
        entry.isOffered (F.origin k) (F.kind k) = true →
          (s.perform (.make k entry (some d))).1 = Answer.ofMade s.slots.length k (.ok made)) ∧
      (∀ id, made = .ok id →
        (F.hook k = none → id.value = v) ∧
        (∀ h, F.hook k = some h → h.apply v = .ok id.value) ∧
        (v = sv.empty → ((F.isUnspecified id).run s.state).1 = true)) ∧
      (∀ e, made = .error e →
        ∃ h c, F.hook k = some h ∧ h.apply v = .error c ∧ e = .rejected (F.name k) c) := by
  have hread := Family.reading_write (Shape.scalar?_lawful hsv) v
  refine ⟨F.verdict k v, (Family.new_settles k v _ hs.sound).1,
    (Family.tryFromValue_settles hsv v _ hs.sound).1, (Family.fromValue_settles hsv v _ hs.sound).1,
    ?_, ?_, fun entry hentry ↦ Entry.gives_write hsv hentry v, ?_, ?_, ?_⟩
  · rw [(Family.parse_settles hsv _ _ hs.sound).1, hread]
  · rw [(Family.fromString_settles hsv _ _ hs.sound).1, hread]
  · intro entry d hgives hoffered
    have hanswer := (Step.make_settles s.slots k entry (some d) _ hs.sound).1
    rw [Entry.outcome_of_gives hsv hgives hoffered] at hanswer
    exact hanswer
  · intro id hid
    refine ⟨?_, ?_, ?_⟩
    · intro hnone
      rw [Family.verdict_of_no_hook hnone] at hid
      obtain rfl := Except.ok.inj hid
      rfl
    · intro h hhook
      exact (Family.verdict_eq_ok_iff hhook).1 hid
    · rintro rfl
      rw [← Family.blankRaw_eq_empty hsv] at hid
      rw [(Family.isUnspecified_settles id _ hs.sound).1, Family.blank_of_verdict hk hid]
      exact decide_eq_true rfl
  · intro e he
    cases hhook : F.hook k with
    | none =>
      rw [Family.verdict_of_no_hook hhook] at he
      exact nomatch he
    | some h =>
      obtain ⟨c, hc, rfl⟩ := (Family.verdict_eq_error_iff hhook).1 he
      exact ⟨h, c, rfl, hc, rfl⟩

/-- The hook of live identifiers rejects the nil UUID, whichever way it comes. -/
theorem entries_agree_nil_liveId :
    let state := (Session.start Catalogue.family []).state
    let made : Made Catalogue.family .liveId := .error (.rejected "LiveId" (.hook "nil"))
    ((Catalogue.family.new .liveId Uuid.nil).run state).1 = made ∧
      ((Catalogue.family.fromString .liveId .uuid (ScalarValue.uuid.write .nil)).run state).1 =
        made := by
  intro state made
  have hscalar : (Catalogue.family.shape .liveId).scalar? = some ScalarValue.uuid := rfl
  obtain ⟨made', hnew, -, -, -, hfromString, -⟩ :=
    Reachable.entries_agree (F := Catalogue.family) (.start []) (k := .liveId) rfl hscalar Uuid.nil
  have hmade : ((Catalogue.family.new .liveId Uuid.nil).run state).1 = made := rfl
  obtain rfl : made = made' := hmade.symm.trans hnew
  exact ⟨hnew, hfromString⟩

end Session

end TypedIds
