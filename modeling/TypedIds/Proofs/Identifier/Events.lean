import TypedIds.Proofs.Identifier.Conversion

/-!
# What a conversion records

Every time a hook is asked, and every time a text is about to be read, there is an event in the
history of the run.  A way from a text to an identifier of a scalar type records the question to the
hook of the type about the value that the text writes, and nothing else (`Family.parse_records`): no
question if the text writes no value, or if there is no hook.  The shortcut for the empty value asks
nothing, since only a type without a hook has it.
-/

set_option autoImplicit false

namespace TypedIds

variable {Key : Type}

/-! ## Runs that record -/

namespace Run

variable {F : Family Key} {α β : Type} {es fs : List (Event Key)}

/-- These events come to the history. -/
def Records (es : List (Event Key)) (m : Run F α) : Prop :=
  ∀ σ, (m.run σ).2.history = σ.history ++ es

theorem Records.pure (a : α) : Records [] (pure a : Run F α) := fun _ ↦ (List.append_nil _).symm

theorem Records.bind {m : Run F α} {f : α → Run F β} (hm : m.Records es)
    (hf : ∀ a, (f a).Records fs) : Records (es ++ fs) (m >>= f) := by
  intro σ
  have hrun : (m >>= f).run σ = (f (m.run σ).1).run (m.run σ).2 := rfl
  rw [hrun, hf, hm, List.append_assoc]

/-- What is done with the result is no event. -/
theorem Records.bind_pure {m : Run F α} {f : α → Run F β} (hm : m.Records es)
    (hf : ∀ a, (f a).Records []) : Records es (m >>= f) := by
  have h := hm.bind hf
  rwa [List.append_nil] at h

theorem Records.note (e : Event Key) : Records [e] (modify (·.note e) : Run F Unit) :=
  fun _ ↦ rfl

/-- That an unspecified identifier is kept is no event. -/
theorem Records.keep [DecidableEq Key] (k : Key) (id : F.Id k) :
    Records [] (modify (·.keep k id) : Run F Unit) := fun _ ↦ (List.append_nil _).symm

end Run

/-! ## Questions -/

/-- The cause for which a hook rejects a value, if it does. -/
def HookFunction.rejection? {α : Type} (h : HookFunction α) (v : α) : Option Cause :=
  match h.apply v with
  | .ok _ => none
  | .error c => some c

theorem HookFunction.rejection?_eq_some_iff {α : Type} {h : HookFunction α} {v : α} {c : Cause} :
    h.rejection? v = some c ↔ h.apply v = .error c := by
  rw [rejection?]
  cases h.apply v <;> simp

namespace Family

variable {F : Family Key} {k : Key} {s : ScalarValue (F.Raw k)}

/-- The question to the hook of a type, if it has one, and its answer. -/
def question (F : Family Key) (k : Key) (purpose : Purpose) (v : F.Raw k) : List (Event Key) :=
  match F.hook k with
  | none => []
  | some h => [.asked k purpose (h.rejection? v)]

theorem question_of_no_hook (hk : F.hook k = none) (purpose : Purpose) (v : F.Raw k) :
    F.question k purpose v = [] := by
  rw [question, hk]

/-- The question about the value that a text writes, if it writes one. -/
def questionOfText (F : Family Key) (k : Key) (s : ScalarValue (F.Raw k)) (input : String) :
    List (Event Key) :=
  match s.read input with
  | .ok v => F.question k .construction v
  | .error _ => []

theorem ask_records (k : Key) (purpose : Purpose) (v : F.Raw k) :
    (F.ask k purpose v).Records (F.question k purpose v) := by
  rw [ask, question]
  cases F.hook k with
  | none => exact .pure _
  | some h =>
    dsimp only
    rw [HookFunction.rejection?]
    cases h.apply v with
    | ok w => exact (Run.Records.note _).bind_pure fun _ ↦ .pure _
    | error c => exact (Run.Records.note _).bind_pure fun _ ↦ .pure _

theorem ofUnspecified_records (hk : F.hook k = none) (v : F.Raw k) :
    (F.ofUnspecified k v).Records [] := by
  have hask := ask_records (F := F) k .unspecified v
  rw [question_of_no_hook hk] at hask
  rw [ofUnspecified]
  cases F.origin k with
  | handWritten => exact .pure _
  | generated =>
    refine hask.bind_pure fun made ↦ ?_
    split <;> exact .pure _

/-- Nothing is asked about the raw value of the unspecified identifier of a scalar type. -/
theorem unspecifiedRaw_records {t : ValueType Key} {shape : Shape F.values t}
    {s : ScalarValue t.Val} (hs : shape.scalar? = some s) {P : Key → Prop}
    (get : (p : Key) → P p → Run F (F.Id p)) (hP : ∀ p ∈ shape.keys, P p) :
    (shape.unspecified get hP).Records [] := by
  cases shape with
  | guid => exact .pure _
  | text => exact .pure _
  | combined ps => exact nomatch hs

variable [DecidableEq Key]

/-- No hook is asked about the unspecified identifier of a scalar type that has none. -/
theorem unspecified_records (hs : (F.shape k).scalar? = some s) (hk : F.hook k = none) :
    (F.unspecified k).Records [] := by
  have hbuild : ∀ hn, (F.build (F.rank k) k hn).Records [] := fun hn ↦
    (unspecifiedRaw_records hs _ hn).bind_pure fun v ↦
      (ofUnspecified_records hk v).bind_pure fun id ↦ (Run.Records.keep k id).bind_pure fun _ ↦
        .pure _
  intro σ
  rw [unspecified, run_unspecifiedBelow]
  cases σ.built k with
  | some id => exact Run.Records.pure id σ
  | none => exact hbuild _ σ

/-- The conversion from a value asks the hook about the value, and nothing else. -/
theorem tryFromValue_records (hs : (F.shape k).scalar? = some s) (v : F.Raw k) :
    (F.tryFromValue k s v).Records (F.question k .construction v) := by
  rw [tryFromValue]
  split
  · exact ask_records k .construction v
  · next hk =>
    have hnew : (F.new k v).Records [] := by
      rw [← question_of_no_hook hk .construction v]
      exact ask_records k .construction v
    rw [question_of_no_hook hk, shortcut]
    split
    · exact (unspecified_records hs hk).bind_pure fun _ ↦ .pure _
    · exact hnew

/-- **Reading a text asks the hook about the value that the text writes, and nothing else.** -/
theorem parse_records (hs : (F.shape k).scalar? = some s) (input : String) :
    (F.parse k s input).Records (F.questionOfText k s input) := by
  rw [parse, questionOfText]
  cases s.read input with
  | ok v => exact tryFromValue_records hs v
  | error e => exact .pure _

theorem fromString_records (hs : (F.shape k).scalar? = some s) (input : String) :
    (F.fromString k s input).Records (.reading k input :: F.questionOfText k s input) :=
  (Run.Records.note _).bind fun _ ↦ parse_records hs input

end Family

end TypedIds
