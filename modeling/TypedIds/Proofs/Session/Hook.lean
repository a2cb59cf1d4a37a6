import TypedIds.Catalogue
import TypedIds.Proofs.Session.Settled
import TypedIds.Proofs.Value.Inside

/-!
# No way around a hook

Whatever a session does, every identifier in it wraps a value that the hook of its type has passed:
one that the hook made, or took.  There is one exception.  A hook may reject the blank raw value;
then the unspecified identifier wraps this value all the same, and it gets into a session by the
entries for the unspecified identifier and by no other (`Family.Held`).

A type that is written by hand does not ask its hook about the unspecified identifier.  That the
hook would not change it is up to whoever writes the type (`Family.SafeByHand`).

The same goes for the identifiers inside of values.  A hook is handed a whole value and may put
together another one, and a plain component has some value to begin with, so this takes for granted
that neither brings an identifier that the type's own rules did not make (`Family.Forgeless`).
-/

set_option autoImplicit false

namespace TypedIds

variable {Key : Type}

namespace Family

/-- The hook of the type, if it has one, has made the value or taken it. -/
def Passed (F : Family Key) (k : Key) (v : F.Raw k) : Prop :=
  ∀ h, F.hook k = some h → h.Passed v

/-- The hook of the type rejects the value. -/
def Rejects (F : Family Key) (k : Key) (v : F.Raw k) : Prop :=
  ∃ h c, F.hook k = some h ∧ h.apply v = .error c

/-- The hook has passed the value of the identifier; or it is the unspecified identifier, which
wraps the blank raw value since the hook rejects just that. -/
def Held (F : Family Key) (k : Key) (id : F.Id k) : Prop :=
  F.Passed k id.value ∨
    id = F.blank k ∧ id.value = F.blankRaw k ∧ F.Rejects k (F.blankRaw k)

/-- A value of the type `t` is that of an identifier which may be held. -/
def HeldAs (F : Family Key) (k : Key) (t : ValueType Key) (v : t.Val) : Prop :=
  ∃ h : t = F.values k, F.Held k ⟨(h ▸ v : (F.values k).Val)⟩

/-- If the type is written by hand, its hook would not change the blank raw value. -/
def SafeByHand (F : Family Key) (k : Key) : Prop :=
  F.origin k = .handWritten → F.Passed k (F.blankRaw k) ∨ F.Rejects k (F.blankRaw k)

/-- Nothing that is not generated makes identifiers past the rules of their types: no type that is
written by hand, no hook and no plain component. -/
structure Forgeless (F : Family Key) : Prop where
  byHand : ∀ k, F.SafeByHand k
  /-- A hook that is given identifiers which may be held yields such identifiers only. -/
  hook : ∀ k h v w, F.hook k = some h → h.apply v = .ok w →
    (F.values k).Each F.HeldAs v → (F.values k).Each F.HeldAs w
  plain : ∀ k, (F.shape k).PlainEach F.HeldAs

variable {F : Family Key} {k : Key} {v : F.Raw k} {id : F.Id k}

/-- An identifier that is made of a value wraps a value that has passed. -/
theorem passed_of_verdict (h : F.verdict k v = .ok id) : F.Passed k id.value := by
  intro hook hk
  rw [HookFunction.passed_iff]
  exact ⟨v, (verdict_eq_ok_iff hk).1 h⟩

/-- A verdict against a value is a rejection by the hook. -/
theorem rejects_of_verdict {e : IdentifierError} (h : F.verdict k v = .error e) :
    F.Rejects k v := by
  cases hk : F.hook k with
  | none =>
    rw [verdict_of_no_hook hk] at h
    exact nomatch h
  | some hook =>
    obtain ⟨c, hc, -⟩ := (verdict_eq_error_iff hk).1 h
    exact ⟨hook, c, hk, hc⟩

/-- The unspecified identifier may be held. -/
theorem blank_held (hk : F.SafeByHand k) : F.Held k (F.blank k) := by
  obtain hverdict | ⟨hblank, ho | ⟨e, hverdict⟩⟩ := F.blank_cases k
  · exact .inl (passed_of_verdict hverdict)
  · obtain hpassed | hrejects := hk ho
    · rw [hblank]
      exact .inl hpassed
    · exact .inr ⟨rfl, by rw [hblank], hrejects⟩
  · exact .inr ⟨rfl, by rw [hblank], rejects_of_verdict hverdict⟩

theorem heldAs_of_held (h : F.Held k id) : F.HeldAs k (F.values k) id.value := ⟨rfl, h⟩

/-- What a hook makes of a value has in it what may be held, if the value has. -/
theorem each_of_verdict (hF : F.Forgeless) (hv : (F.values k).Each F.HeldAs v)
    (h : F.verdict k v = .ok id) : (F.values k).Each F.HeldAs id.value := by
  cases hk : F.hook k with
  | none =>
    rw [verdict_of_no_hook hk] at h
    obtain rfl := Except.ok.inj h
    exact hv
  | some hook => exact hF.hook k hook v id.value hk ((verdict_eq_ok_iff hk).1 h) hv

/-- The unspecified identifier may be held, and so may every identifier inside of its value. -/
theorem blank_throughout (hF : F.Forgeless) (k : Key) :
    AnyIdentifier.Throughout F.HeldAs (F := F) ⟨k, F.blank k⟩ := by
  -- The induction is on the rank, which goes down from an identifier to its components.
  induction hn : F.rank k using Nat.strongRecOn generalizing k with
  | ind n ih =>
    subst hn
    have hraw : (F.values k).Each F.HeldAs (F.blankRaw k) :=
      (F.shape k).each_blank (hF.plain k) fun p hp ↦ ih (F.rank p) (F.rank_lt k p hp) p rfl
    refine ⟨heldAs_of_held (blank_held (hF.byHand k)), ?_⟩
    obtain hverdict | ⟨hblank, -⟩ := F.blank_cases k
    · exact each_of_verdict hF hraw hverdict
    · rw [hblank]
      exact hraw

end Family

/-! ## What a step makes -/

section

variable {F : Family Key}

/-- The identifier that an answer says was made. -/
def Answer.made? : Except Refusal (Answer F) → Option (AnyIdentifier F)
  | .ok (.made _ a) => some a
  | _ => none

theorem Session.slotsAfter_eq (s : Session F) (answer : Except Refusal (Answer F)) :
    s.slotsAfter answer = s.slots ++ (Answer.made? answer).toList := by
  cases answer with
  | error r => simp [slotsAfter, Answer.made?]
  | ok a => cases a <;> simp [slotsAfter, Answer.made?]

/-- A run yields no answer that an identifier was made. -/
def Run.MakesNone (m : Run F (Except Refusal (Answer F))) : Prop :=
  ∀ σ, Answer.made? (m.run σ).1 = none

theorem Run.MakesNone.pure {answer : Except Refusal (Answer F)} (h : Answer.made? answer = none) :
    MakesNone (pure answer) := fun _ ↦ h

theorem Run.MakesNone.bind {α : Type} {m : Run F α} {f : α → Run F (Except Refusal (Answer F))}
    (hf : ∀ a, MakesNone (f a)) : MakesNone (m >>= f) := fun σ ↦ hf (m.run σ).1 (m.run σ).2

end

variable [DecidableEq Key] {F : Family Key}

/-- Only a step that is there to make an identifier makes one. -/
theorem Step.makesNone {slots : List (AnyIdentifier F)} {step : Step Key}
    (hstep : ∀ k entry argument, step ≠ .make k entry argument) :
    (step.answer slots).MakesNone := by
  cases step with
  | make k entry argument => exact absurd rfl (hstep k entry argument)
  | view n =>
    refine .pure ?_
    cases AnyIdentifier.inSlot slots n <;> rfl
  | inspect n =>
    rw [answer]
    cases AnyIdentifier.inSlot slots n with
    | error r => exact .pure rfl
    | ok a => exact .bind fun _ ↦ .bind fun _ ↦ .pure rfl
  | roundTrip n =>
    rw [answer]
    cases AnyIdentifier.inSlot slots n with
    | error r => exact .pure rfl
    | ok a =>
      dsimp only
      rw [AnyIdentifier.roundTrip]
      split
      · exact .pure rfl
      · exact .bind fun _ ↦ .bind fun _ ↦ .pure rfl
  | render n form =>
    refine .pure ?_
    cases AnyIdentifier.inSlot slots n with
    | error r => rfl
    | ok a =>
      simp only [Bind.bind, Except.bind]
      split <;> rfl
  | compare m n =>
    refine .pure ?_
    cases AnyIdentifier.inSlot slots m with
    | error r => rfl
    | ok a =>
      cases AnyIdentifier.inSlot slots n <;> rfl
  | sort ns =>
    refine .pure ?_
    simp only [Bind.bind, Except.bind]
    split
    · rfl
    · split <;> rfl

namespace Session

/-- An identifier that a step makes is what comes of an entry. -/
theorem outcome_of_made {s : Session F} (hs : s.Reachable) {step : Step Key} {a : AnyIdentifier F}
    (h : Answer.made? (s.perform step).1 = some a) :
    ∃ entry argument, step = .make a.key entry argument ∧
      entry.outcome s.slots a.key argument = .ok (.ok a.id) := by
  have hstep : (∃ k entry argument, step = .make k entry argument) ∨
      ∀ k entry argument, step ≠ .make k entry argument := by
    cases step with
    | make k entry argument => exact .inl ⟨k, entry, argument, rfl⟩
    | _ => exact .inr fun _ _ _ ↦ nofun
  obtain ⟨k, entry, argument, rfl⟩ | hother := hstep
  · have hanswer : (s.perform (.make k entry argument)).1 =
        Answer.ofMade s.slots.length k (entry.outcome s.slots k argument) :=
      (Step.make_settles s.slots k entry argument _ hs.sound).1
    rw [hanswer] at h
    cases hmade : entry.outcome s.slots k argument with
    | error r =>
      rw [hmade] at h
      exact nomatch h
    | ok made =>
      rw [hmade] at h
      cases made with
      | error e => exact nomatch h
      | ok id =>
        obtain rfl := Option.some.inj h
        exact ⟨entry, argument, rfl, hmade⟩
  · have hnone : Answer.made? (s.perform step).1 = none := Step.makesNone hother s.state
    rw [hnone] at h
    exact nomatch h

/-- A property of all identifiers in slots: whatever comes of an entry has it, if those in the slots
have it. -/
theorem Reachable.forall_slots {s : Session F} (hs : s.Reachable) {Q : AnyIdentifier F → Prop}
    (hmade : ∀ slots entry k argument id, (∀ a ∈ slots, Q a) →
      Entry.outcome slots entry k argument = .ok (.ok id) → Q ⟨k, id⟩) :
    ∀ a ∈ s.slots, Q a := by
  induction hs with
  | start keys =>
    intro a ha
    exact nomatch ha
  | @perform s hs step ih =>
    intro a ha
    have hslots : (s.perform step).2.2.slots =
        s.slots ++ (Answer.made? (s.perform step).1).toList := s.slotsAfter_eq _
    rw [hslots, List.mem_append, Option.mem_toList] at ha
    obtain ha | ha := ha
    · exact ih a ha
    · obtain ⟨entry, argument, -, houtcome⟩ := outcome_of_made hs ha
      exact hmade s.slots entry a.key argument a.id ih houtcome

/-- **There is no way around a hook.**  In a reachable session, of a type that is generated or safe
by hand,

* every identifier in a slot may be held, and so may the unspecified identifier that is kept;
* what is read from a text has passed the hook;
* an identifier that is made has passed the hook, unless an entry for the unspecified identifier has
  made it and the hook rejects the blank raw value, which it wraps then;

and every identifier inside of one of these may be held too, if nothing that is not generated makes
identifiers past the rules of their types. -/
theorem Reachable.no_way_around {s : Session F} (hs : s.Reachable) :
    (∀ a ∈ s.slots, F.SafeByHand a.key → F.Held a.key a.id) ∧
    (∀ k id, s.state.built k = some id → F.SafeByHand k → F.Held k id) ∧
    (∀ k sv input id, (F.shape k).scalar? = some sv →
      ((F.parse k sv input).run s.state).1 = .ok id → F.Passed k id.value) ∧
    (∀ step n a, (s.perform step).1 = .ok (.made n a) → F.SafeByHand a.key →
      F.Passed a.key a.id.value ∨
        (∃ entry argument, step = .make a.key entry argument ∧
          (entry = .default ∨ entry = .unspecified)) ∧
        a.id = F.blank a.key ∧ a.id.value = F.blankRaw a.key ∧
          F.Rejects a.key (F.blankRaw a.key)) ∧
    (F.Forgeless →
      (∀ a ∈ s.slots, a.Throughout F.HeldAs) ∧
      ∀ k id, s.state.built k = some id →
        AnyIdentifier.Throughout F.HeldAs (F := F) ⟨k, id⟩) := by
  refine ⟨?_, ?_, ?_, ?_, fun hF ↦ ⟨?_, ?_⟩⟩
  · refine hs.forall_slots fun slots entry k argument id _ houtcome hk ↦ ?_
    obtain ⟨-, rfl⟩ | ⟨v, hverdict, -⟩ := Entry.outcome_eq_ok houtcome
    · exact Family.blank_held hk
    · exact .inl (Family.passed_of_verdict hverdict)
  · intro k id hid hk
    obtain rfl := hs.sound k id hid
    exact Family.blank_held hk
  · intro k sv input id hsv hid
    rw [(Family.parse_settles hsv input _ hs.sound).1] at hid
    obtain ⟨v, -, hverdict⟩ := Family.reading_eq_ok hid
    exact Family.passed_of_verdict hverdict
  · intro step n a hmade hk
    have hmade? : Answer.made? (s.perform step).1 = some a := by
      rw [hmade]
      rfl
    obtain ⟨entry, argument, rfl, houtcome⟩ := outcome_of_made hs hmade?
    obtain ⟨hentry, hblank⟩ | ⟨v, hverdict, -⟩ := Entry.outcome_eq_ok houtcome
    · have hheld := Family.blank_held hk
      rw [← hblank] at hheld
      obtain hpassed | ⟨-, hvalue, hrejects⟩ := hheld
      · exact .inl hpassed
      · exact .inr ⟨⟨entry, argument, rfl, hentry⟩, hblank, hvalue, hrejects⟩
    · exact .inl (Family.passed_of_verdict hverdict)
  · refine hs.forall_slots fun slots entry k argument id hslots houtcome ↦ ?_
    obtain ⟨-, rfl⟩ | ⟨v, hverdict, hraw⟩ := Entry.outcome_eq_ok houtcome
    · exact Family.blank_throughout hF k
    · have hv : (F.values k).Each F.HeldAs v := by
        obtain ⟨d, hd⟩ | ⟨sv, hsv⟩ := hraw
        · exact (F.shape k).each_of_ofData? hslots hd
        · exact Shape.each_of_scalar? hsv v
      exact ⟨Family.heldAs_of_held (.inl (Family.passed_of_verdict hverdict)),
        Family.each_of_verdict hF hv hverdict⟩
  · intro k id hid
    obtain rfl := hs.sound k id hid
    exact Family.blank_throughout hF k

end Session

/-! ## The catalogue -/

namespace Catalogue

/-- No type of the catalogue with a hook has identifiers inside of its values. -/
theorem each_of_hook {Q : (k : Catalogue.Key) → (t : ValueType Catalogue.Key) → t.Val → Prop}
    {k : Catalogue.Key} (hk : (hook k).isSome = true) (v : (values k).Val) :
    (values k).Each Q v := by
  cases k with
  | userKey | accountKey | range | stock => exact ⟨trivial, trivial, trivial⟩
  | slot | shard | wide | nested | contact => cases hk
  | _ => exact trivial

/-- No plain component of the catalogue holds identifiers. -/
theorem plainEach_shape {Q : (k : Catalogue.Key) → (t : ValueType Catalogue.Key) → t.Val → Prop}
    (k : Catalogue.Key) : (shape k).PlainEach Q := by
  cases k <;> simp [shape, shape.user, Shape.PlainEach, Parts.PlainEach, ValueType.Each]

/-- Nothing in the catalogue makes identifiers past the rules of their types. -/
theorem family_forgeless : family.Forgeless where
  byHand k hk := by
    cases k with
    | skuCode =>
      refine .inl fun h hh ↦ ?_
      obtain rfl := Option.some.inj hh
      exact ⟨"", rfl⟩
    | batchId => exact .inl fun h hh ↦ nomatch hh
    | lotId => exact .inl fun h hh ↦ nomatch hh
    | _ => exact nomatch hk
  hook k h v w hk _ _ := each_of_hook (Option.isSome_of_eq_some hk) w
  plain k := plainEach_shape k

/-- A session with two unspecified identifiers: the hook of the first rejects the blank raw value,
and so does the hook of a component of the second. -/
def unspecifiedTwice : Session family :=
  (((Session.start family []).perform (.make .stock .unspecified none)).2.2.perform
    (.make .contact .default none)).2.2

theorem no_way_around_unspecifiedTwice :
    unspecifiedTwice.slots.length = 2 ∧
      ∀ a ∈ unspecifiedTwice.slots, family.Held a.key a.id ∧ a.Throughout family.HeldAs := by
  have hreachable : unspecifiedTwice.Reachable := .perform (.perform (.start []) _) _
  obtain ⟨hheld, -, -, -, hthroughout⟩ := Session.Reachable.no_way_around hreachable
  refine ⟨rfl, fun a ha ↦ ⟨hheld a ha (family_forgeless.byHand a.key), ?_⟩⟩
  exact (hthroughout family_forgeless).1 a ha

/-- The exception is needed: the hook of stocks has not taken the blank raw value. -/
example : ¬family.Passed .stock (family.blankRaw .stock) := fun h ↦ nomatch h stockHook rfl

end Catalogue

end TypedIds
