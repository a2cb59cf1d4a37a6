import TypedIds.Identifier.Family

/-!
# Runs

What happens to identifiers over time.  The unspecified identifier of a type is built when it is
first asked for, and kept from then on; and every use of a hook and every conversion through text is
an event.  The log shows the conversions, and the hooks that rejected a value.

`Family.unspecified` gives the unspecified identifier of a type, and `Family.new` makes an
identifier of a value.  Nothing else asks a hook.
-/

set_option autoImplicit false

namespace TypedIds

variable {Key : Type}

/-- Why a hook is asked. -/
inductive Purpose where
  /-- To make an identifier of a value that was given. -/
  | construction
  /-- To build the unspecified identifier. -/
  | unspecified
  deriving Repr, DecidableEq, Inhabited

/-- What happened. -/
inductive Event (Key : Type) where
  /-- A text is about to be read as an identifier of the type `k`. -/
  | reading (k : Key) (text : String)
  /-- An identifier of the type `k` was written. -/
  | written (k : Key) (text : String)
  /-- The hook of the type `k` was asked about a value, and rejected it if there is a cause. -/
  | asked (k : Key) (purpose : Purpose) (rejection : Option Cause)
  deriving Repr, DecidableEq

/-- The line of the log that an event leaves, if any. -/
def Event.line? (F : Family Key) : Event Key → Option String
  | .reading k text => some ("TRACE converting " ++ quoted text ++ " to " ++ F.name k)
  | .written k text => some ("TRACE converted " ++ F.name k ++ " to " ++ quoted text)
  | .asked _ _ none => none
  | .asked k _ (some c) =>
    match F.origin k with
    | .generated => some ("DEBUG " ++ (IdentifierError.rejected (F.name k) c).message)
    | .handWritten => none
where
  quoted (s : String) : String := String.ofList (Text.quoteText s.toList)

/-- Where a run stands. -/
structure RunState (F : Family Key) where
  /-- The unspecified identifiers that have been built. -/
  built : (k : Key) → Option (F.Id k)
  /-- What happened so far, in order. -/
  history : List (Event Key)

namespace RunState

/-- The start of a run: nothing is built, and nothing has happened. -/
def start (F : Family Key) : RunState F := ⟨fun _ ↦ none, []⟩

variable {F : Family Key}

/-- One more event. -/
def note (e : Event Key) (s : RunState F) : RunState F := { s with history := s.history ++ [e] }

/-- The unspecified identifier of the type `k` is built. -/
def keep [DecidableEq Key] (k : Key) (id : F.Id k) (s : RunState F) : RunState F :=
  { s with built := fun j ↦ if h : j = k then some (h ▸ id) else s.built j }

end RunState

/-- What a run computes. -/
abbrev Run (F : Family Key) (α : Type) : Type := StateM (RunState F) α

/-- An identifier, or why there is none. -/
abbrev Made (F : Family Key) (k : Key) : Type := Except IdentifierError (F.Id k)

/-! ## The value of the unspecified identifier -/

variable {F : Family Key} {P : Key → Prop}

/-- The value of a component in the unspecified identifier, from the unspecified identifiers of the
types that it is made of. -/
def Part.unspecified {t : ValueType Key} (get : (p : Key) → P p → Run F (F.Id p)) :
    (part : Part F.values t) → (∀ p ∈ part.keys, P p) → Run F t.Val
  | .plain v, _ => pure v
  | .identifier k, h => get k (h k (List.mem_singleton.mpr rfl))

/-- The values of the components in the unspecified identifier, in order. -/
def Parts.unspecified (get : (p : Key) → P p → Run F (F.Id p)) :
    {fs : FieldTypes Key} → (parts : Parts F.values fs) → (∀ p ∈ parts.keys, P p) → Run F fs.Val
  | _, .nil, _ => pure ()
  | _, .cons part parts, h => do
    let a ← part.unspecified get fun p hp ↦ h p (List.mem_append_left _ hp)
    let b ← parts.unspecified get fun p hp ↦ h p (List.mem_append_right _ hp)
    return (a, b)

/-- The raw value of the unspecified identifier: the one that says nothing, or the tuple of those of
the components. -/
def Shape.unspecified {t : ValueType Key} (get : (p : Key) → P p → Run F (F.Id p)) :
    (shape : Shape F.values t) → (∀ p ∈ shape.keys, P p) → Run F t.Val
  | .guid, _ => pure Uuid.nil
  | .text, _ => pure ""
  | .combined parts, h => parts.unspecified get h

namespace Family

/-! ## Making identifiers -/

/-- The identifier that the hook of the type makes of a value. -/
def ask (F : Family Key) (k : Key) (purpose : Purpose) (v : F.Raw k) : Run F (Made F k) :=
  match F.hook k with
  | none => pure (.ok ⟨v⟩)
  | some h =>
    match h.apply v with
    | .ok w => do
      modify (·.note (.asked k purpose none))
      return .ok ⟨w⟩
    | .error c => do
      modify (·.note (.asked k purpose (some c)))
      return .error (.rejected (F.name k) c)

/-- A new identifier of a value. -/
def new (F : Family Key) (k : Key) (v : F.Raw k) : Run F (Made F k) := F.ask k .construction v

/-- The identifier of the raw value `v` that is unspecified: what the hook makes of `v`, or `v`
itself if the hook rejects it. -/
def ofUnspecified (F : Family Key) (k : Key) (v : F.Raw k) : Run F (F.Id k) :=
  match F.origin k with
  | .handWritten => pure ⟨v⟩
  | .generated => do
    match ← F.ask k .unspecified v with
    | .ok id => return id
    | .error _ => return ⟨v⟩

variable [DecidableEq Key]

/-- The unspecified identifier of a type of a rank below `n`. -/
def unspecifiedBelow (F : Family Key) : (n : Nat) → (k : Key) → F.rank k < n → Run F (F.Id k)
  | 0, _, h => absurd h (Nat.not_lt_zero _)
  | n + 1, k, h => do
    match (← get).built k with
    | some id => return id
    | none =>
      let v ← (F.shape k).unspecified (F.unspecifiedBelow n) fun p hp ↦
        Nat.lt_of_lt_of_le (F.rank_lt k p hp) (Nat.le_of_lt_succ h)
      let id ← F.ofUnspecified k v
      modify (·.keep k id)
      return id

/-- The unspecified identifier of a type. -/
def unspecified (F : Family Key) (k : Key) : Run F (F.Id k) :=
  F.unspecifiedBelow (F.rank k + 1) k (Nat.lt_succ_self _)

/-- The identifier that stands where none is given: the unspecified one. -/
def default (F : Family Key) (k : Key) : Run F (F.Id k) := F.unspecified k

/-- Whether an identifier is the unspecified one of its type. -/
def isUnspecified (F : Family Key) {k : Key} (id : F.Id k) : Run F Bool := do
  return decide (id = (← F.unspecified k))

end Family

end TypedIds
