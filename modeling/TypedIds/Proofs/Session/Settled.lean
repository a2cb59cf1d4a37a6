import TypedIds.Proofs.Identifier.Conversion
import TypedIds.Session

/-!
# What a session settles

A step of a session answers from the slots alone: what was built or asked before has no part in the
answer.  `Entry.outcome` is what comes of making an identifier, without a state, and
`Entry.make_settles` says that it is what every run makes; for every other step
`Step.answer_settled` says that there is one answer.

A session is *reachable* if steps lead to it from a start.  The state of a reachable session is
sound.
-/

set_option autoImplicit false

namespace TypedIds

variable {Key : Type}

/-! ## Making identifiers -/

theorem Shape.kind_of_scalar?_eq_none {values : Key → ValueType Key} {t : ValueType Key}
    {shape : Shape values t} (h : shape.scalar? = none) : shape.kind = .combined := by
  cases shape with
  | guid => exact nomatch h
  | text => exact nomatch h
  | combined ps => rfl

namespace Entry

/-- A combined identifier is made by these entries only. -/
theorem eq_of_isOffered_combined {entry : Entry} {o : Origin}
    (h : entry.isOffered o .combined = true) :
    entry = .new ∨ entry = .default ∨ entry = .unspecified := by
  cases entry <;> simp_all [isOffered, MarkerKind.isScalar]

/-- What comes of an argument, if it could be read. -/
def given {α β : Type} (argument : Option α) (f : α → β) : Except Refusal β :=
  match argument with
  | some a => .ok (f a)
  | none => .error .badArgument

theorem given_eq_ok {α β : Type} {argument : Option α} {f : α → β} {b : β}
    (h : given argument f = .ok b) : ∃ a, argument = some a ∧ f a = b := by
  cases argument with
  | none => exact nomatch h
  | some a => exact ⟨a, rfl, Except.ok.inj h⟩

theorem withArgument_settles {F : Family Key} {α β : Type} {f : α → Run F β} {g : α → β}
    (hf : ∀ a, (f a).Settles (g a)) (argument : Option α) :
    (withArgument argument f).Settles (given argument g) := by
  cases argument with
  | none => exact .pure _
  | some a => exact (hf a).bind (.pure _)

variable [DecidableEq Key] {F : Family Key} (slots : List (AnyIdentifier F))

/-- What comes of making an identifier of the type `k`, without a state. -/
def outcome (entry : Entry) (k : Key) (argument : Option Data) : Except Refusal (Made F k) :=
  if entry.isOffered (F.origin k) (F.kind k) then
    match entry with
    | .new | .newText | .fromValue | .fromText | .tryFromValue =>
      given (argument.bind ((F.shape k).ofData? slots)) (F.verdict k)
    | .parse | .convert | .fromString =>
      match (F.shape k).scalar? with
      | some s => given (argument.bind Data.text?) (F.reading k s)
      | none => .error .unknownEntry
    | .default | .unspecified => .ok (.ok (F.blank k))
  else .error .unknownEntry

/-- **What is made does not depend on the state**: from every sound one, an entry makes what comes
of it without a state. -/
theorem make_settles (entry : Entry) (k : Key) (argument : Option Data) :
    (entry.make slots k argument).Settles (entry.outcome slots k argument) := by
  cases hoffered : entry.isOffered (F.origin k) (F.kind k) with
  | false =>
    simp only [make, outcome, hoffered]
    exact .pure _
  | true =>
    cases hs : (F.shape k).scalar? with
    | none =>
      have hcombined := hoffered
      rw [Family.kind, Shape.kind_of_scalar?_eq_none hs] at hcombined
      obtain rfl | rfl | rfl := eq_of_isOffered_combined hcombined <;>
        simp only [make, outcome, makeCombined, hoffered, hs, if_true]
      · exact withArgument_settles (Family.new_settles k) _
      · exact (Family.unspecified_settles k).bind (.pure _)
      · exact (Family.unspecified_settles k).bind (.pure _)
    | some s =>
      cases entry <;> simp only [make, outcome, makeScalar, hoffered, hs, if_true]
      case new | newText => exact withArgument_settles (Family.new_settles k) _
      case fromValue | fromText => exact withArgument_settles (Family.fromValue_settles hs) _
      case tryFromValue => exact withArgument_settles (Family.tryFromValue_settles hs) _
      case parse | convert => exact withArgument_settles (Family.parse_settles hs) _
      case fromString => exact withArgument_settles (Family.fromString_settles hs) _
      case default | unspecified => exact (Family.unspecified_settles k).bind (.pure _)

/-- An entry makes the unspecified identifier, or what comes of a raw value: one that is read from
data, or one of a scalar type. -/
theorem outcome_eq_ok {slots : List (AnyIdentifier F)} {entry : Entry} {k : Key}
    {argument : Option Data} {id : F.Id k} (h : entry.outcome slots k argument = .ok (.ok id)) :
    (entry = .default ∨ entry = .unspecified) ∧ id = F.blank k ∨
      ∃ v, F.verdict k v = .ok id ∧
        ((∃ d, (F.shape k).ofData? slots d = some v) ∨ ∃ s, (F.shape k).scalar? = some s) := by
  cases hoffered : entry.isOffered (F.origin k) (F.kind k) with
  | false => simp [outcome, hoffered] at h
  | true =>
    cases entry <;> simp only [outcome, hoffered, if_true] at h
    case new | newText | fromValue | fromText | tryFromValue =>
      obtain ⟨v, hv, hverdict⟩ := given_eq_ok h
      obtain ⟨d, -, hd⟩ := Option.bind_eq_some_iff.1 hv
      exact .inr ⟨v, hverdict, .inl ⟨d, hd⟩⟩
    case parse | convert | fromString =>
      cases hs : (F.shape k).scalar? with
      | none =>
        rw [hs] at h
        exact nomatch h
      | some s =>
        rw [hs] at h
        obtain ⟨input, -, hreading⟩ := given_eq_ok h
        obtain ⟨v, -, hverdict⟩ := Family.reading_eq_ok hreading
        exact .inr ⟨v, hverdict, .inr ⟨s, rfl⟩⟩
    case default | unspecified =>
      exact .inl ⟨by simp, (Except.ok.inj (Except.ok.inj h)).symm⟩

end Entry

/-! ## Answers -/

/-- There is something that the run yields from every sound state. -/
def Run.Settled {F : Family Key} {α : Type} (m : Run F α) : Prop := ∃ a, m.Settles a

section

variable [DecidableEq Key] {F : Family Key} (slots : List (AnyIdentifier F))

theorem AnyIdentifier.roundTrip_settled (a : AnyIdentifier F) : a.roundTrip.Settled := by
  rw [roundTrip]
  cases hs : (F.shape a.key).scalar? with
  | none => exact ⟨_, .pure _⟩
  | some s =>
    exact ⟨_, (Family.toText_settles a.id).bind ((Family.parse_settles hs _).bind (.pure _))⟩

/-- The answer to a step that makes an identifier. -/
def Answer.ofMade (n : Nat) (k : Key) : Except Refusal (Made F k) → Except Refusal (Answer F)
  | .error r => .error r
  | .ok (.error e) => .ok (.failed e)
  | .ok (.ok id) => .ok (.made n ⟨k, id⟩)

theorem Step.make_settles (k : Key) (entry : Entry) (argument : Option Data) :
    ((Step.make k entry argument).answer slots).Settles
      (Answer.ofMade slots.length k (entry.outcome slots k argument)) := by
  refine (entry.make_settles slots k argument).bind ?_
  cases entry.outcome slots k argument with
  | error r => exact .pure _
  | ok made =>
    cases made with
    | error e => exact .pure _
    | ok id => exact .pure _

/-- There is one answer to a step, whatever the state. -/
theorem Step.answer_settled (step : Step Key) : (step.answer slots).Settled := by
  cases step with
  | make k entry argument => exact ⟨_, Step.make_settles slots k entry argument⟩
  | view n => exact ⟨_, .pure _⟩
  | inspect n =>
    rw [answer]
    split
    · exact ⟨_, .pure _⟩
    · next a _ =>
      exact ⟨_, (Family.isUnspecified_settles a.id).bind
        ((Family.unspecified_settles a.key).bind (.pure _))⟩
  | roundTrip n =>
    rw [answer]
    split
    · exact ⟨_, .pure _⟩
    · next a _ => exact a.roundTrip_settled
  | render n form => exact ⟨_, .pure _⟩
  | compare m n => exact ⟨_, .pure _⟩
  | sort ns => exact ⟨_, .pure _⟩

end

/-! ## Reachable sessions -/

namespace Session

variable [DecidableEq Key] {F : Family Key}

/-- Steps lead to the session from a start. -/
inductive Reachable : Session F → Prop where
  | start (keys : List Key) : Reachable (.start F keys)
  | perform {s : Session F} (hs : Reachable s) (step : Step Key) :
    Reachable (s.perform step).2.2

theorem start_settles (keys : List Key) :
    Run.Settles (keys.forM fun k ↦ do let _ ← F.unspecified k : Run F Unit) () := by
  induction keys with
  | nil => exact .pure ()
  | cons k keys ih => exact ((Family.unspecified_settles k).bind (.pure ())).bind ih

theorem sound_start (keys : List Key) : (Session.start F keys).state.Sound :=
  (start_settles keys _ .start).2

/-- **The state of a reachable session is sound.** -/
theorem Reachable.sound {s : Session F} (hs : s.Reachable) : s.state.Sound := by
  induction hs with
  | start keys => exact sound_start keys
  | @perform s hs step ih =>
    obtain ⟨a, ha⟩ := step.answer_settled s.slots
    exact (ha s.state ih).2

end Session

end TypedIds
