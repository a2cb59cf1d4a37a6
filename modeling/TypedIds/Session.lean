import TypedIds.Identifier.Conversion
import TypedIds.Session.Step

/-!
# Sessions

A session works with identifiers of one family step by step.  Every identifier that is made gets a
slot, and later steps name it by its slot: to show it, to compare it, to convert it, or to use it as
a component of another one.  Arguments are plain data, so a session holds no identifier that was not
made by its type's own rules.

`Session.perform` does one step.  It gives the answer, the lines that the step left in the log, and
the session after it.
-/

set_option autoImplicit false

namespace TypedIds

variable {Key : Type}

/-! ## Arguments -/

/-- The identifier of the type `k` in a slot. -/
def Family.inSlot? [DecidableEq Key] (F : Family Key) (slots : List (AnyIdentifier F)) (k : Key)
    (n : Nat) : Option (F.Id k) :=
  (slots[n]?).bind fun a ↦ if h : a.key = k then some (h ▸ a.id) else none

section

variable [DecidableEq Key] {F : Family Key} (slots : List (AnyIdentifier F))

/-- The component that data stand for: an identifier is named by its slot. -/
def Part.ofData? {t : ValueType Key} : Part F.values t → Data → Option t.Val
  | .plain _, d => t.ofData? d
  | .identifier k, .number (.ofNat n) => F.inSlot? slots k n
  | .identifier _, _ => none

/-- The components that a list of data stands for. -/
def Parts.ofData? : {fs : FieldTypes Key} → Parts F.values fs → List Data → Option fs.Val
  | _, .nil, [] => some ()
  | _, .cons p ps, d :: ds => (p.ofData? slots d).bind fun a ↦ (ps.ofData? ds).map (a, ·)
  | _, _, _ => none

/-- The raw value that data stand for. -/
def Shape.ofData? {t : ValueType Key} : Shape F.values t → Data → Option t.Val
  | .guid, d => (ValueType.uuid : ValueType Key).ofData? d
  | .text, d => (ValueType.text : ValueType Key).ofData? d
  | .combined ps, .list ds => ps.ofData? slots ds
  | .combined _, _ => none

/-! ## Making identifiers -/

/-- The text that data are. -/
def Data.text? : Data → Option String
  | .text s => some s
  | _ => none

/-- Does something with an argument that could be read; a bad argument is refused. -/
def Entry.withArgument {α β : Type} (a : Option α) (f : α → Run F β) : Run F (Except Refusal β) :=
  match a with
  | some a => do return .ok (← f a)
  | none => pure (.error .badArgument)

/-- A scalar identifier, made by an entry. -/
def Entry.makeScalar (entry : Entry) (k : Key) (s : ScalarValue (F.Raw k))
    (argument : Option Data) : Run F (Except Refusal (Made F k)) :=
  let raw := argument.bind ((F.shape k).ofData? slots)
  let text := argument.bind Data.text?
  match entry with
  | .new | .newText => withArgument raw (F.new k)
  | .fromValue | .fromText => withArgument raw (F.fromValue k s)
  | .tryFromValue => withArgument raw (F.tryFromValue k s)
  | .parse | .convert => withArgument text (F.parse k s)
  | .fromString => withArgument text (F.fromString k s)
  | .default => do return .ok (.ok (← F.default k))
  | .unspecified => do return .ok (.ok (← F.unspecified k))

/-- A combined identifier, made by an entry. -/
def Entry.makeCombined (entry : Entry) (k : Key) (argument : Option Data) :
    Run F (Except Refusal (Made F k)) :=
  match entry with
  | .new => withArgument (argument.bind ((F.shape k).ofData? slots)) (F.new k)
  | .default => do return .ok (.ok (← F.default k))
  | .unspecified => do return .ok (.ok (← F.unspecified k))
  | _ => pure (.error .unknownEntry)

/-- An identifier of the type `k`, made by an entry that the type has. -/
def Entry.make (entry : Entry) (k : Key) (argument : Option Data) :
    Run F (Except Refusal (Made F k)) :=
  if entry.isOffered (F.origin k) (F.kind k) then
    match (F.shape k).scalar? with
    | some s => entry.makeScalar slots k s argument
    | none => entry.makeCombined slots k argument
  else pure (.error .unknownEntry)

end

/-! ## Steps -/

section

variable [DecidableEq Key] {F : Family Key} (slots : List (AnyIdentifier F))

/-- The identifier in a slot. -/
def AnyIdentifier.inSlot (n : Nat) : Except Refusal (AnyIdentifier F) :=
  match slots[n]? with
  | some a => .ok a
  | none => .error .noSuchSlot

/-- An identifier written and read again. -/
def AnyIdentifier.roundTrip (a : AnyIdentifier F) : Run F (Except Refusal (Answer F)) :=
  match (F.shape a.key).scalar? with
  | none => pure (.error .notScalar)
  | some s => do
    let text ← F.toText a.key s a.id
    let back ← F.parse a.key s text
    return .ok (.roundTrip text (back.map fun id ↦ decide (id = a.id)))

/-- The answer to a step. -/
def Step.answer (step : Step Key) : Run F (Except Refusal (Answer F)) :=
  match step with
  | .make k entry argument => do
    match ← entry.make slots k argument with
    | .error r => return .error r
    | .ok (.error e) => return .ok (.failed e)
    | .ok (.ok id) => return .ok (.made slots.length ⟨k, id⟩)
  | .view n => pure do return .viewed (← AnyIdentifier.inSlot slots n)
  | .inspect n =>
    match AnyIdentifier.inSlot slots n with
    | .error r => pure (.error r)
    | .ok a => do
      let unspecified ← F.isUnspecified a.id
      let default ← F.default a.key
      return .ok (.inspected unspecified (decide (a.id = default)))
  | .roundTrip n =>
    match AnyIdentifier.inSlot slots n with
    | .error r => pure (.error r)
    | .ok a => a.roundTrip
  | .render n form => pure do
    let a ← AnyIdentifier.inSlot slots n
    match form.bind a.render? with
    | some s => return .rendered (String.ofList s)
    | none => throw .badFormat
  | .compare m n => pure do
    let a ← AnyIdentifier.inSlot slots m
    let b ← AnyIdentifier.inSlot slots n
    return .compared a b (a.compare b)
  | .sort ns => pure do
    let as ← ns.mapM fun n ↦ return (n, ← AnyIdentifier.inSlot slots n)
    match AnyIdentifier.sorted? as with
    | some as => return .sorted (as.map Prod.fst)
    | none => throw .incomparable

end

/-- A session: where its run stands, and the identifiers in its slots. -/
structure Session (F : Family Key) where
  state : RunState F
  slots : List (AnyIdentifier F)

namespace Session

variable [DecidableEq Key] {F : Family Key}

/-- A session in which the unspecified identifiers of some types are already built. -/
def start (F : Family Key) (keys : List Key) : Session F :=
  ⟨(keys.forM fun k ↦ do let _ ← F.unspecified k : Run F Unit).run (.start F) |>.2, []⟩

/-- The slots after an answer: an identifier that was made gets a new one. -/
def slotsAfter (s : Session F) : Except Refusal (Answer F) → List (AnyIdentifier F)
  | .ok (.made _ a) => s.slots ++ [a]
  | _ => s.slots

/-- The lines that the events after the first `n` leave in the log. -/
def logAfter (state : RunState F) (n : Nat) : List String :=
  (state.history.drop n).filterMap (·.line? F)

/-- One step: the answer, the lines in the log, and the session after the step. -/
def perform (s : Session F) (step : Step Key) :
    Except Refusal (Answer F) × List String × Session F :=
  let (answer, state) := (step.answer s.slots).run s.state
  (answer, logAfter state s.state.history.length, ⟨state, s.slotsAfter answer⟩)

end Session

end TypedIds
