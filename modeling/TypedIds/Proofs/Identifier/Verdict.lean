import TypedIds.Identifier.Conversion

/-!
# Verdicts

What a type makes of a value, without the state of a run.  `Family.verdict` is what the hook of a
type makes of a value: an identifier, or a rejection.  `Family.blank` is the unspecified identifier
of a type, which is the verdict on the blank raw value, or that value itself if the verdict is
against it.
-/

set_option autoImplicit false

namespace TypedIds

variable {Key : Type}

/-! ## Hooks -/

namespace HookFunction

variable {α : Type}

/-- The value is one that the hook made of some value, or, if it only looks, one that it took. -/
def Passed : HookFunction α → α → Prop
  | ⟨.value, run⟩, w => ∃ v, run v = w
  | ⟨.unit, run⟩, w => run w = ()
  | ⟨.resultValue, run⟩, w => ∃ v, run v = .ok w
  | ⟨.resultUnit, run⟩, w => run w = .ok ()

/-- A hook that only looks keeps the value that it was given. -/
theorem apply_eq_ok_of_looks {run : α → Except Cause Unit} {v w : α} :
    apply ⟨.resultUnit, run⟩ v = .ok w ↔ run v = .ok () ∧ v = w := by
  rw [apply]
  cases hrun : run v with
  | error c => simp [settle, hrun]
  | ok u => simp [settle, hrun]

/-- A value has passed exactly if it is what is wrapped in place of some value. -/
theorem passed_iff {h : HookFunction α} {w : α} : h.Passed w ↔ ∃ v, h.apply v = .ok w := by
  obtain ⟨returns, run⟩ := h
  cases returns with
  | value => simp [Passed, apply, settle]
  | unit => simp [Passed, apply, settle]
  | resultValue => simp [Passed, apply, settle]
  | resultUnit =>
    constructor
    · intro hw
      exact ⟨w, apply_eq_ok_of_looks.2 ⟨hw, rfl⟩⟩
    · rintro ⟨v, hv⟩
      obtain ⟨hrun, rfl⟩ := apply_eq_ok_of_looks.1 hv
      exact hrun

end HookFunction

namespace Family

/-- The identifier that the hook of the type makes of a value, or the rejection. -/
def verdict (F : Family Key) (k : Key) (v : F.Raw k) : Made F k :=
  match F.hook k with
  | none => .ok ⟨v⟩
  | some h =>
    match h.apply v with
    | .ok w => .ok ⟨w⟩
    | .error c => .error (.rejected (F.name k) c)

variable {F : Family Key} {k : Key} {v : F.Raw k}

/-- Without a hook every value is taken as it is. -/
theorem verdict_of_no_hook (hk : F.hook k = none) : F.verdict k v = .ok ⟨v⟩ := by
  simp [verdict, hk]

theorem verdict_eq_ok_iff {h : HookFunction (F.Raw k)} (hk : F.hook k = some h) {id : F.Id k} :
    F.verdict k v = .ok id ↔ h.apply v = .ok id.value := by
  simp only [verdict, hk]
  cases happly : h.apply v with
  | error c => simp
  | ok w =>
    constructor
    · rintro ⟨⟩
      rfl
    · rintro ⟨⟩
      rfl

/-- A verdict against a value is a rejection, with the hook's own cause. -/
theorem verdict_eq_error_iff {h : HookFunction (F.Raw k)} (hk : F.hook k = some h)
    {e : IdentifierError} :
    F.verdict k v = .error e ↔ ∃ c, h.apply v = .error c ∧ e = .rejected (F.name k) c := by
  simp only [verdict, hk]
  cases happly : h.apply v with
  | error c =>
    constructor
    · rintro ⟨⟩
      exact ⟨c, rfl, rfl⟩
    · rintro ⟨c', hc, rfl⟩
      obtain rfl := Except.error.inj hc
      rfl
  | ok w => simp

/-- The unspecified identifier of the raw value `v`, without a state. -/
def settled (F : Family Key) (k : Key) (v : F.Raw k) : F.Id k :=
  match F.origin k with
  | .handWritten => ⟨v⟩
  | .generated => (F.verdict k v).toOption.getD ⟨v⟩

end Family

/-! ## Blank identifiers -/

section

variable {F : Family Key}

/-- The value of a component in the unspecified identifier, without a state. -/
def Part.blank {t : ValueType Key} :
    (part : Part F.values t) → ((p : Key) → p ∈ part.keys → F.Id p) → t.Val
  | .plain v, _ => v
  | .identifier k, get => get k (List.mem_singleton.mpr rfl)

/-- The values of the components in the unspecified identifier, without a state. -/
def Parts.blank : {fs : FieldTypes Key} → (parts : Parts F.values fs) →
    ((p : Key) → p ∈ parts.keys → F.Id p) → fs.Val
  | _, .nil, _ => ()
  | _, .cons part parts, get =>
    (part.blank fun p hp ↦ get p (List.mem_append_left _ hp),
      parts.blank fun p hp ↦ get p (List.mem_append_right _ hp))

/-- The raw value of the unspecified identifier, without a state. -/
def Shape.blank {t : ValueType Key} :
    (shape : Shape F.values t) → ((p : Key) → p ∈ shape.keys → F.Id p) → t.Val
  | .guid, _ => Uuid.nil
  | .text, _ => ""
  | .combined parts, get => parts.blank get

end

namespace Family

/-- The unspecified identifier of a type, without a state. -/
def blank (F : Family Key) (k : Key) : F.Id k :=
  F.settled k ((F.shape k).blank fun p _ ↦ F.blank p)
termination_by F.rank k
decreasing_by exact F.rank_lt k p ‹_›

/-- The raw value of the unspecified identifier: the empty value, or the tuple of the unspecified
values of the components. -/
def blankRaw (F : Family Key) (k : Key) : F.Raw k := (F.shape k).blank fun p _ ↦ F.blank p

theorem blank_eq (F : Family Key) (k : Key) : F.blank k = F.settled k (F.blankRaw k) := by
  rw [blank, blankRaw]

/-- The unspecified identifier is what comes of the blank raw value, or else wraps that value: if
the type is written by hand, or if the verdict is against it. -/
theorem blank_cases (F : Family Key) (k : Key) :
    F.verdict k (F.blankRaw k) = .ok (F.blank k) ∨
      F.blank k = ⟨F.blankRaw k⟩ ∧
        (F.origin k = .handWritten ∨ ∃ e, F.verdict k (F.blankRaw k) = .error e) := by
  rw [blank_eq, settled]
  cases ho : F.origin k with
  | handWritten => exact .inr ⟨rfl, .inl rfl⟩
  | generated =>
    cases hverdict : F.verdict k (F.blankRaw k) with
    | ok id => exact .inl rfl
    | error e => exact .inr ⟨rfl, .inr ⟨e, rfl⟩⟩

end Family

end TypedIds
