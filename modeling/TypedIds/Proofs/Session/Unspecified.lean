import TypedIds.Catalogue
import TypedIds.Proofs.Identifier.Builds
import TypedIds.Proofs.Session.Settled

/-!
# Unspecified identifiers have no history

The unspecified identifier of a type is built when a session first asks for it, whichever step that
is: one that makes it, one that compares with it, a conversion of the empty value, or one that needs
it as a component of another unspecified identifier.  What is built does not depend on that
(`Run.Settles`), and it is built once (`RunState.Thrifty`).

* `RunState.Stable.answer` — what a step keeps: every property of states that is kept by unspecified
  identifiers and by events which have nothing to do with them.
* `Session.Reachable.thrifty` — what a whole session keeps.
* **`Session.Reachable.unspecified_constant`**: every way to see the unspecified identifier of a
  type shows the same one, and its hook was asked about it at most once.
-/

set_option autoImplicit false

namespace TypedIds

variable {Key : Type} [DecidableEq Key] {F : Family Key}

/-! ## What a step keeps -/

/-- The property is kept by unspecified identifiers, and by events that build none. -/
structure RunState.Stable (Q : RunState F → Prop) : Prop where
  note : ∀ e : Event Key, (∀ k, e.isBuild k = false) →
    Run.Keeps Q (modify (·.note e) : Run F Unit)
  unspecified : ∀ k, (F.unspecified k).Keeps Q

namespace RunState.Stable

open Run (Keeps)

variable {Q : RunState F → Prop} (hQ : Stable Q)

include hQ

theorem new (k : Key) (v : F.Raw k) : (F.new k v).Keeps Q := by
  rw [Family.new, Family.ask]
  cases F.hook k with
  | none => exact .pure _
  | some h =>
    dsimp only
    cases h.apply v with
    | ok w => exact (hQ.note _ fun _ ↦ rfl).bind fun _ ↦ .pure _
    | error c => exact (hQ.note _ fun _ ↦ rfl).bind fun _ ↦ .pure _

theorem shortcut (k : Key) (s : ScalarValue (F.Raw k)) (v : F.Raw k) :
    (F.shortcut k s v).Keeps Q := by
  rw [Family.shortcut]
  split
  · exact (hQ.unspecified k).bind fun _ ↦ .pure _
  · exact hQ.new k v

theorem tryFromValue (k : Key) (s : ScalarValue (F.Raw k)) (v : F.Raw k) :
    (F.tryFromValue k s v).Keeps Q := by
  rw [Family.tryFromValue]
  split
  · exact hQ.new k v
  · exact hQ.shortcut k s v

theorem fromValue (k : Key) (s : ScalarValue (F.Raw k)) (v : F.Raw k) :
    (F.fromValue k s v).Keeps Q := by
  rw [Family.fromValue]
  split
  · exact hQ.tryFromValue k s v
  · split
    · exact hQ.new k v
    · exact hQ.shortcut k s v

theorem parse (k : Key) (s : ScalarValue (F.Raw k)) (input : String) :
    (F.parse k s input).Keeps Q := by
  rw [Family.parse]
  split
  · exact hQ.tryFromValue k s _
  · exact .pure _

theorem fromString (k : Key) (s : ScalarValue (F.Raw k)) (input : String) :
    (F.fromString k s input).Keeps Q :=
  (hQ.note _ fun _ ↦ rfl).bind fun _ ↦ hQ.parse k s input

omit hQ [DecidableEq Key] in
theorem withArgument {α β : Type} {argument : Option α} {f : α → Run F β}
    (hf : ∀ a, (f a).Keeps Q) : (Entry.withArgument argument f).Keeps Q := by
  cases argument with
  | none => exact .pure _
  | some a => exact (hf a).bind fun _ ↦ .pure _

theorem make (slots : List (AnyIdentifier F)) (entry : Entry) (k : Key) (argument : Option Data) :
    (entry.make slots k argument).Keeps Q := by
  rw [Entry.make]
  split
  · have hunspecified : Keeps Q (do return .ok (.ok (← F.unspecified k)) :
        Run F (Except Refusal (Made F k))) := (hQ.unspecified k).bind fun _ ↦ .pure _
    split
    · next s _ =>
      cases entry <;> rw [Entry.makeScalar]
      case new | newText => exact withArgument (hQ.new k)
      case fromValue | fromText => exact withArgument (hQ.fromValue k s)
      case tryFromValue => exact withArgument (hQ.tryFromValue k s)
      case parse | convert => exact withArgument (hQ.parse k s)
      case fromString => exact withArgument (hQ.fromString k s)
      case default | unspecified => exact hunspecified
    · cases entry
      case new => exact withArgument (hQ.new k)
      case default | unspecified => exact hunspecified
      all_goals exact .pure _
  · exact .pure _

theorem roundTrip (a : AnyIdentifier F) : a.roundTrip.Keeps Q := by
  rw [AnyIdentifier.roundTrip]
  split
  · exact .pure _
  · next s _ =>
    exact ((hQ.note _ fun _ ↦ rfl).bind fun _ ↦ .pure _).bind fun text ↦
      (hQ.parse a.key s text).bind fun _ ↦ .pure _

/-- A step keeps what its parts keep. -/
theorem answer (slots : List (AnyIdentifier F)) (step : Step Key) :
    (step.answer slots).Keeps Q := by
  cases step with
  | make k entry argument =>
    refine (hQ.make slots entry k argument).bind fun made ↦ ?_
    split <;> exact .pure _
  | view n => exact .pure _
  | inspect n =>
    rw [Step.answer]
    split
    · exact .pure _
    · next a _ =>
      exact ((hQ.unspecified a.key).bind fun _ ↦ .pure _).bind fun _ ↦
        (hQ.unspecified a.key).bind fun _ ↦ .pure _
  | roundTrip n =>
    rw [Step.answer]
    split
    · exact .pure _
    · next a _ => exact hQ.roundTrip a
  | render n form => exact .pure _
  | compare m n => exact .pure _
  | sort ns => exact .pure _

end RunState.Stable

/-- Events that build nothing do not count. -/
theorem RunState.stable_thrifty : Stable (F := F) Thrifty where
  note e he σ hσ k := by
    show (σ.note e).builds k ≤ (σ.built k).isSome.toNat
    rw [builds_note, he k]
    exact hσ k
  unspecified := Family.unspecified_keeps_thrifty

namespace Session

/-- In a reachable session every hook was asked about the blank value at most once, and not at all
if the unspecified identifier of its type is not built. -/
theorem Reachable.thrifty {s : Session F} (hs : s.Reachable) : s.state.Thrifty := by
  induction hs with
  | start keys =>
    have hkeys : Run.Keeps RunState.Thrifty
        (keys.forM fun k ↦ do let _ ← F.unspecified k : Run F Unit) := by
      induction keys with
      | nil => exact .pure ()
      | cons k keys ih =>
        exact ((Family.unspecified_keeps_thrifty k).bind fun _ ↦ .pure ()).bind fun _ ↦ ih
    exact hkeys _ .start
  | @perform s hs step ih => exact RunState.stable_thrifty.answer s.slots step _ ih

/-- The lines that asking the hook of the type `k` about the blank value has left in the log. -/
def buildLines (s : Session F) (k : Key) : List String :=
  (s.state.history.filter (Event.isBuild k)).filterMap (·.line? F)

/-- **The unspecified identifier of a type has no history.**  In a reachable session, whatever was
done in it and in what order,

* every way to see the unspecified identifier of a generated type shows `F.blank k`, which depends
  on the type alone: asking for it or for the default, comparing with it, converting the empty value
  without a hook, and the steps that do so;
* as components of a combined identifier the unspecified ones make up its blank raw value;
* it is what the constructor makes of the blank raw value, which is the empty value of a scalar
  type, or else wraps that value;
* the hook of the type was asked about it at most once, so at most one line of the log stems from
  that. -/
theorem Reachable.unspecified_constant {s : Session F} (hs : s.Reachable) {k : Key}
    (hk : F.origin k = .generated) :
    (((F.unspecified k).run s.state).1 = F.blank k ∧
      ((F.default k).run s.state).1 = F.blank k ∧
      (∀ id : F.Id k, ((F.isUnspecified id).run s.state).1 = decide (id = F.blank k)) ∧
      (∀ sv, (F.shape k).scalar? = some sv → F.hook k = none →
        ((F.tryFromValue k sv sv.empty).run s.state).1 = .ok (F.blank k) ∧
          ((F.fromValue k sv sv.empty).run s.state).1 = .ok (F.blank k)) ∧
      (∀ entry argument, entry = .default ∨ entry = .unspecified →
        (s.perform (.make k entry argument)).1 = .ok (.made s.slots.length ⟨k, F.blank k⟩)) ∧
      ∀ n id, s.slots[n]? = some ⟨k, id⟩ →
        (s.perform (.inspect n)).1 =
          .ok (.inspected (decide (id = F.blank k)) (decide (id = F.blank k)))) ∧
    (((F.shape k).unspecified (fun p _ ↦ F.unspecified p) fun _ _ ↦ trivial).run s.state).1 =
      F.blankRaw k ∧
    ((∀ sv, (F.shape k).scalar? = some sv → F.blankRaw k = sv.empty) ∧
      ∀ made, ((F.new k (F.blankRaw k)).run s.state).1 = made →
        F.blank k = match made with | .ok id => id | .error _ => ⟨F.blankRaw k⟩) ∧
    s.state.builds k ≤ 1 ∧ (s.buildLines k).length ≤ 1 := by
  have hunspecified := Family.unspecified_settles (F := F) k
  refine ⟨⟨(hunspecified _ hs.sound).1, (hunspecified _ hs.sound).1,
    fun id ↦ (Family.isUnspecified_settles id _ hs.sound).1, fun sv hsv hhook ↦ ?shortcut,
    fun entry argument hentry ↦ ?make, fun n id hn ↦ ?inspect⟩, ?component, ⟨fun sv hsv ↦
    Family.blankRaw_eq_empty hsv, fun made hmade ↦ ?new⟩, hs.thrifty.builds_le_one k, ?lines⟩
  case shortcut =>
    have hblank : F.verdict k sv.empty = .ok (F.blank k) := by
      rw [Family.verdict_of_no_hook hhook, Family.blank_of_no_hook hhook,
        Family.blankRaw_eq_empty hsv]
    rw [(Family.tryFromValue_settles hsv _ _ hs.sound).1,
      (Family.fromValue_settles hsv _ _ hs.sound).1]
    exact ⟨hblank, hblank⟩
  case make =>
    have hanswer := (Step.make_settles s.slots k entry argument _ hs.sound).1
    have houtcome : entry.outcome s.slots k argument = .ok (.ok (F.blank k)) := by
      obtain rfl | rfl := hentry <;> rfl
    rw [houtcome] at hanswer
    exact hanswer
  case inspect =>
    have hslot : AnyIdentifier.inSlot s.slots n = .ok ⟨k, id⟩ := by rw [AnyIdentifier.inSlot, hn]
    have hanswer := (Family.isUnspecified_settles id).bind
      (f := fun u ↦ do
        let d ← F.default k
        return (.ok (.inspected u (decide (id = d))) : Except Refusal (Answer F)))
      (hunspecified.bind (.pure _)) _ hs.sound
    rw [Session.perform, Step.answer, hslot]
    exact hanswer.1
  case component =>
    have hraw : ((F.shape k).unspecified (fun p _ ↦ F.unspecified p) fun _ _ ↦ trivial).Settles
        (F.blankRaw k) :=
      (F.shape k).unspecified_settles _ fun p _ ↦ Family.unspecified_settles p
    exact (hraw _ hs.sound).1
  case new =>
    rw [(Family.new_settles k _ _ hs.sound).1] at hmade
    rw [Family.blank_eq, Family.settled, hk, hmade]
    cases made with
    | ok id => rfl
    | error e => rfl
  case lines =>
    refine Nat.le_trans (List.length_filterMap_le _ _) ?_
    rw [← List.countP_eq_length_filter]
    exact hs.thrifty.builds_le_one k

/-- The hook of stocks rejects the blank value, and so does that of mailboxes, which contacts have
as a component. -/
def usedOften : Session Catalogue.family :=
  [Step.make .contact .default none, .make .stock .unspecified none,
    .make .mailbox .unspecified none, .make .stock .default none, .inspect 1].foldl
    (fun s step ↦ (s.perform step).2.2) (.start _ [])

theorem unspecified_constant_usedOften :
    (((Catalogue.family.unspecified .stock).run usedOften.state).1 = Catalogue.family.blank .stock ∧
      usedOften.state.builds .stock = 1 ∧
      usedOften.buildLines .stock = ["DEBUG Stock rejected value: hook says zero"]) ∧
    ((Catalogue.family.unspecified .mailbox).run usedOften.state).1 =
        Catalogue.family.blank .mailbox ∧
      usedOften.state.builds .mailbox = 1 := by
  have hreachable : usedOften.Reachable :=
    .perform (.perform (.perform (.perform (.perform (.start []) _) _) _) _) _
  obtain ⟨⟨hstock, -⟩, -⟩ := Reachable.unspecified_constant hreachable (k := .stock) rfl
  obtain ⟨⟨hmailbox, -⟩, -⟩ := Reachable.unspecified_constant hreachable (k := .mailbox) rfl
  exact ⟨⟨hstock, by decide +kernel, by decide +kernel⟩, hmailbox, by decide +kernel⟩

end Session

end TypedIds
