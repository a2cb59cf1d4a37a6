import TypedIds.Catalogue
import TypedIds.Proofs.Identifier.Events
import TypedIds.Proofs.Session.Settled

/-!
# Why a text is not read

There are two reasons why no identifier comes of a text.  The text writes no value; only a UUID type
has such texts, since every text is one.  Or the text writes a value, and the hook of the type
rejects it.  The first is found before any hook is asked, and leaves no rejection in the log.  The
second comes of asking the hook once, and leaves one, unless the type is written by hand.

* `Family.reading_eq_unreadable_iff`, `Family.reading_eq_rejected_iff` — the two reasons.
* `Step.reads_records` — what a step that reads a text records.
* **`Session.Reachable.reading_classified`**: both, for a step in a reachable session.
-/

set_option autoImplicit false

namespace TypedIds

variable {Key : Type}

/-! ## The two reasons -/

namespace Shape

variable {values : Key → ValueType Key} {t : ValueType Key} {shape : Shape values t}
  {s : ScalarValue t.Val}

theorem isScalar_kind (hs : shape.scalar? = some s) : shape.kind.isScalar = true := by
  cases shape with
  | guid | text => rfl
  | combined ps => exact nomatch hs

/-- Only what is no UUID writes no value. -/
theorem read_eq_error_iff (hs : shape.scalar? = some s) {input : String} {e : Uuid.ReadError} :
    s.read input = .error e ↔ shape.kind = .guid ∧ Uuid.read input.toList = .error e := by
  cases shape with
  | guid =>
    obtain rfl := Option.some.inj hs
    exact ⟨fun h ↦ ⟨rfl, h⟩, And.right⟩
  | text =>
    obtain rfl := Option.some.inj hs
    exact ⟨fun h ↦ (nomatch h), fun h ↦ nomatch h.1⟩
  | combined ps => exact nomatch hs

end Shape

namespace Family

variable {F : Family Key} {k : Key} {s : ScalarValue (F.Raw k)} {input : String}

/-- A verdict against a value is no complaint about a text. -/
theorem verdict_ne_unreadable {v : F.Raw k} {n t : String} {c : Cause} :
    F.verdict k v ≠ .error (.unreadable n t c) := by
  intro h
  cases hk : F.hook k with
  | none =>
    rw [verdict_of_no_hook hk] at h
    exact nomatch h
  | some hook =>
    obtain ⟨c, -, he⟩ := (verdict_eq_error_iff hk).1 h
    exact nomatch he

theorem reading_eq_unreadable_iff (hs : (F.shape k).scalar? = some s) {n t : String} {c : Cause} :
    F.reading k s input = .error (.unreadable n t c) ↔
      n = F.name k ∧ t = input ∧ F.kind k = .guid ∧
        ∃ e, Uuid.read input.toList = .error e ∧ c = .uuid e := by
  rw [reading]
  cases hread : s.read input with
  | error e =>
    obtain ⟨hkind, hraw⟩ := (Shape.read_eq_error_iff hs).1 hread
    simp [hraw, Family.kind, hkind, eq_comm]
  | ok v =>
    refine iff_of_false verdict_ne_unreadable ?_
    rintro ⟨-, -, hkind, e, hraw, -⟩
    rw [(Shape.read_eq_error_iff hs).2 ⟨hkind, hraw⟩] at hread
    cases hread

theorem reading_eq_rejected_iff {n : String} {c : Cause} :
    F.reading k s input = .error (.rejected n c) ↔
      n = F.name k ∧
        ∃ v h, s.read input = .ok v ∧ F.hook k = some h ∧ h.apply v = .error c := by
  rw [reading]
  cases hread : s.read input with
  | error e => simp
  | ok v =>
    cases hk : F.hook k with
    | none => simp [verdict_of_no_hook hk]
    | some h =>
      simp only [verdict_eq_error_iff hk, IdentifierError.rejected.injEq]
      constructor
      · rintro ⟨c, hc, rfl, rfl⟩
        exact ⟨rfl, v, h, rfl, rfl, hc⟩
      · rintro ⟨rfl, v, h, ⟨⟩, ⟨⟩, hc⟩
        exact ⟨c, hc, rfl, rfl⟩

/-! ## What is asked -/

/-- Nothing is asked about a text that writes no value. -/
theorem questionOfText_of_unreadable {n t : String} {c : Cause}
    (h : F.reading k s input = .error (.unreadable n t c)) : F.questionOfText k s input = [] := by
  rw [reading] at h
  rw [questionOfText]
  cases hread : s.read input with
  | error e => rfl
  | ok v =>
    rw [hread] at h
    exact absurd h verdict_ne_unreadable

/-- A rejection comes of asking the hook once. -/
theorem questionOfText_of_rejected {n : String} {c : Cause}
    (h : F.reading k s input = .error (.rejected n c)) :
    F.questionOfText k s input = [.asked k .construction (some c)] := by
  obtain ⟨-, v, hook, hread, hk, hc⟩ := reading_eq_rejected_iff.1 h
  rw [questionOfText, hread]
  simp only [question, hk]
  rw [HookFunction.rejection?_eq_some_iff.2 hc]

/-- No rejection is left by an identifier that is made. -/
theorem lines_questionOfText_of_ok {id : F.Id k} (h : F.reading k s input = .ok id) :
    (F.questionOfText k s input).filterMap (·.line? F) = [] := by
  obtain ⟨v, hread, hverdict⟩ := reading_eq_ok h
  rw [questionOfText, hread]
  cases hk : F.hook k with
  | none => simp only [question_of_no_hook hk, List.filterMap_nil]
  | some hook =>
    have happly := (verdict_eq_ok_iff hk).1 hverdict
    simp [question, hk, HookFunction.rejection?, happly, Event.line?]

end Family

/-! ## Steps that read a text -/

/-- The entry makes an identifier of what a text writes. -/
def Entry.ReadsText (entry : Entry) : Prop :=
  entry = .parse ∨ entry = .convert ∨ entry = .fromString

/-- What an entry records before it reads a text. -/
def Entry.announcement (entry : Entry) (k : Key) (input : String) : List (Event Key) :=
  match entry with
  | .fromString => [.reading k input]
  | _ => []

theorem Answer.ofMade_eq_failed_iff {F : Family Key} {n : Nat} {k : Key} {made : Made F k}
    {e : IdentifierError} :
    Answer.ofMade n k (.ok made) = .ok (.failed e) ↔ made = .error e := by
  cases made <;> simp [ofMade]

section

variable {F : Family Key} {k : Key} {s : ScalarValue (F.Raw k)} {slots : List (AnyIdentifier F)}
  {entry : Entry}

theorem Entry.ReadsText.isOffered (hentry : entry.ReadsText)
    (hs : (F.shape k).scalar? = some s) : entry.isOffered (F.origin k) (F.kind k) = true := by
  have hscalar : (F.kind k).isScalar = true := Shape.isScalar_kind hs
  obtain rfl | rfl | rfl := hentry <;> exact hscalar

variable [DecidableEq Key]

/-- What comes of an entry that reads a text. -/
theorem Entry.ReadsText.outcome_eq (hentry : entry.ReadsText)
    (hs : (F.shape k).scalar? = some s) (input : String) :
    entry.outcome slots k (some (.text input)) = .ok (F.reading k s input) := by
  have hoffered := hentry.isOffered hs
  obtain rfl | rfl | rfl := hentry <;>
    simp only [outcome, hoffered, hs, if_true, Option.bind_some, Data.text?, given]

/-- **A step that reads a text asks the hook about the value that the text writes**, and nothing
else. -/
theorem Step.reads_records (hentry : entry.ReadsText) (hs : (F.shape k).scalar? = some s)
    (input : String) :
    ((Step.make k entry (some (.text input))).answer slots).Records
      (entry.announcement k input ++ F.questionOfText k s input) := by
  have hoffered := hentry.isOffered hs
  have hmake : (entry.make slots k (some (.text input))).Records
      (entry.announcement k input ++ F.questionOfText k s input) := by
    obtain rfl | rfl | rfl := hentry <;>
      simp only [Entry.make, Entry.makeScalar, hoffered, hs, if_true]
    · exact (Family.parse_records hs input).bind_pure fun _ ↦ .pure _
    · exact (Family.parse_records hs input).bind_pure fun _ ↦ .pure _
    · exact (Family.fromString_records hs input).bind_pure fun _ ↦ .pure _
  refine hmake.bind_pure fun made ↦ ?_
  split <;> exact .pure _

end

namespace Session

variable [DecidableEq Key] {F : Family Key}

/-- The events of a step. -/
def news (s : Session F) (step : Step Key) : List (Event Key) :=
  (s.perform step).2.2.state.history.drop s.state.history.length

theorem log_eq (s : Session F) (step : Step Key) :
    (s.perform step).2.1 = (s.news step).filterMap (·.line? F) := rfl

theorem news_eq {s : Session F} {step : Step Key} {es : List (Event Key)}
    (h : (step.answer s.slots).Records es) : s.news step = es := by
  have hhistory : (s.perform step).2.2.state.history = s.state.history ++ es := h s.state
  rw [news, hhistory, List.drop_left]

/-- **A text is not read for one of two reasons.**  In a reachable session, a step that reads a text
as an identifier of a scalar type fails

* since the text writes no value, exactly if the type is a UUID type and the text is no UUID: the
  error has the name of the type, the text and what is wrong with it, no hook was asked, and the log
  has no more than that the text was going to be read;
* since the value is rejected, exactly if the text writes a value that the hook of the type rejects:
  the error has the name of the type and the hook's own cause, the hook was asked once, and a
  generated type leaves one line with that error in the log, a type written by hand none.

Otherwise there is an identifier, and no rejection in the log.  Every text writes a text, so the
first reason is never that of a text type. -/
theorem Reachable.reading_classified {s : Session F} (hs : s.Reachable) {k : Key}
    {sv : ScalarValue (F.Raw k)} (hsv : (F.shape k).scalar? = some sv) {entry : Entry}
    (hentry : entry.ReadsText) (input : String) :
    let step : Step Key := .make k entry (some (.text input))
    let answer := (s.perform step).1
    let log := (s.perform step).2.1
    let announced := entry.announcement k input
    ((∀ n t c, answer = .ok (.failed (.unreadable n t c)) ↔
        n = F.name k ∧ t = input ∧ F.kind k = .guid ∧
          ∃ e, Uuid.read input.toList = .error e ∧ c = .uuid e) ∧
      (∀ n t c, answer = .ok (.failed (.unreadable n t c)) →
        s.news step = announced ∧ log = announced.filterMap (·.line? F))) ∧
    ((∀ n c, answer = .ok (.failed (.rejected n c)) ↔
        n = F.name k ∧
          ∃ v h, sv.read input = .ok v ∧ F.hook k = some h ∧ h.apply v = .error c) ∧
      (∀ n c, answer = .ok (.failed (.rejected n c)) →
        s.news step = announced ++ [.asked k .construction (some c)] ∧
          log = announced.filterMap (·.line? F) ++
            match F.origin k with
            | .generated => ["DEBUG " ++ (IdentifierError.rejected n c).message]
            | .handWritten => [])) ∧
    ((∃ e, answer = .ok (.failed e)) ∨
      (∃ id, answer = .ok (.made s.slots.length ⟨k, id⟩)) ∧
        log = announced.filterMap (·.line? F)) ∧
    (F.kind k = .string → ∀ n t c, answer ≠ .ok (.failed (.unreadable n t c))) := by
  intro step answer log announced
  have hanswer : answer = Answer.ofMade s.slots.length k (.ok (F.reading k sv input)) := by
    have houtcome : entry.outcome s.slots k (some (.text input)) = .ok (F.reading k sv input) :=
      hentry.outcome_eq hsv input
    rw [← houtcome]
    exact (Step.make_settles s.slots k entry (some (.text input)) _ hs.sound).1
  have hnews : s.news step = announced ++ F.questionOfText k sv input :=
    news_eq (Step.reads_records hentry hsv input)
  have hlog : log = announced.filterMap (·.line? F) ++
      (F.questionOfText k sv input).filterMap (·.line? F) := by
    rw [← List.filterMap_append, ← hnews]
    exact s.log_eq step
  have hfailed : ∀ e, answer = .ok (.failed e) ↔ F.reading k sv input = .error e := fun e ↦ by
    rw [hanswer, Answer.ofMade_eq_failed_iff]
  have hunreadable : ∀ n t c, answer = .ok (.failed (.unreadable n t c)) ↔
      n = F.name k ∧ t = input ∧ F.kind k = .guid ∧
        ∃ e, Uuid.read input.toList = .error e ∧ c = .uuid e := fun n t c ↦ by
    rw [hfailed, Family.reading_eq_unreadable_iff hsv]
  have hrejected : ∀ n c, answer = .ok (.failed (.rejected n c)) ↔
      n = F.name k ∧
        ∃ v h, sv.read input = .ok v ∧ F.hook k = some h ∧ h.apply v = .error c := fun n c ↦ by
    rw [hfailed, Family.reading_eq_rejected_iff]
  refine ⟨⟨hunreadable, fun n t c h ↦ ?unreadable⟩, ⟨hrejected, fun n c h ↦ ?rejected⟩, ?made,
    fun hkind n t c h ↦ ?text⟩
  case unreadable =>
    have hquestion := Family.questionOfText_of_unreadable ((hfailed _).1 h)
    rw [hnews, hlog, hquestion, List.filterMap_nil, List.append_nil, List.append_nil]
    exact ⟨rfl, rfl⟩
  case rejected =>
    obtain rfl := ((hrejected n c).1 h).1
    rw [hnews, hlog, Family.questionOfText_of_rejected ((hfailed _).1 h)]
    refine ⟨rfl, congrArg _ ?_⟩
    simp only [List.filterMap_cons, Event.line?]
    cases F.origin k <;> rfl
  case made =>
    cases hreading : F.reading k sv input with
    | error e => exact .inl ⟨e, (hfailed e).2 hreading⟩
    | ok id =>
      refine .inr ⟨⟨id, ?_⟩, ?_⟩
      · rw [hanswer, hreading]
        rfl
      · rw [hlog, Family.lines_questionOfText_of_ok hreading, List.append_nil]
  case text =>
    obtain ⟨-, -, hguid, -⟩ := (hunreadable n t c).1 h
    rw [hkind] at hguid
    cases hguid

/-- A stock-keeping unit with a blank is rejected, which leaves a line in the log; what is no UUID
is not read, and no hook is asked, for a type that is generated and one written by hand. -/
theorem reading_classified_sku :
    let start := Session.start Catalogue.family []
    let reject : Step Catalogue.Key := .make .sku .fromString (some (.text "a b"))
    let misread : Step Catalogue.Key := .make .batchId .parse (some (.text "1st"))
    let cause : Cause := .text "\"a b\" contains a space"
    (start.perform reject).1 = .ok (.failed (.rejected "Sku" cause)) ∧
      (start.perform reject).2.1 =
        ["TRACE converting \"a b\" to Sku",
          "DEBUG Sku rejected value: \"a b\" contains a space"] ∧
      (∃ c, (start.perform misread).1 = .ok (.failed (.unreadable "BatchId" "1st" c))) ∧
      start.news misread = [] := by
  intro start reject misread cause
  have hstart : start.Reachable := .start []
  have hfromString : Entry.ReadsText .fromString := .inr (.inr rfl)
  have hparse : Entry.ReadsText .parse := .inl rfl
  obtain ⟨-, ⟨hrejected, hline⟩, -⟩ :=
    hstart.reading_classified (k := .sku) rfl hfromString "a b"
  obtain ⟨⟨hunreadable, hnews⟩, -⟩ :=
    hstart.reading_classified (k := .batchId) rfl hparse "1st"
  have hreject : (start.perform reject).1 = .ok (.failed (.rejected "Sku" cause)) :=
    (hrejected "Sku" cause).2 ⟨rfl, "a b", Catalogue.skuHook, rfl, rfl, rfl⟩
  have hmisread : (start.perform misread).1 =
      .ok (.failed (.unreadable "BatchId" "1st" (.uuid (.character 's' 1)))) :=
    (hunreadable _ _ _).2 ⟨rfl, rfl, rfl, .character 's' 1, rfl, rfl⟩
  refine ⟨hreject, ?_, ⟨_, hmisread⟩, (hnews _ _ _ hmisread).1⟩
  rw [(hline _ _ hreject).2]
  decide +kernel

end Session

end TypedIds
