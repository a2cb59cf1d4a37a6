import TypedIds.Identifier.Run

/-!
# Conversions

The ways from a raw value or a text to a scalar identifier, and back.  All of them end in the hook
of the type.  A type without a hook gives the unspecified identifier for the value that says
nothing.

A type whose hook may fail has only conversions that may fail; any other type also has conversions
that cannot.  Both are computed here as the same kind of result.
-/

set_option autoImplicit false

namespace TypedIds.Family

variable {Key : Type} [DecidableEq Key]

/-- Whether the hook of a type may reject a value. -/
def isFallible (F : Family Key) (k : Key) : Bool := (F.hook k).any (·.returns.isFallible)

/-- The identifier of a value of a type without a hook. -/
def shortcut (F : Family Key) (k : Key) (s : ScalarValue (F.Raw k)) (v : F.Raw k) :
    Run F (Made F k) := do
  if s.isEmpty v then return .ok (← F.unspecified k) else F.new k v

/-- The identifier of a raw value, by the conversion that may fail. -/
def tryFromValue (F : Family Key) (k : Key) (s : ScalarValue (F.Raw k)) (v : F.Raw k) :
    Run F (Made F k) :=
  match F.hook k with
  | some _ => F.new k v
  | none => F.shortcut k s v

/-- The identifier of a raw value, by the conversion of the standard kind: the one that may fail if
the hook may, and else the one that cannot. -/
def fromValue (F : Family Key) (k : Key) (s : ScalarValue (F.Raw k)) (v : F.Raw k) :
    Run F (Made F k) :=
  if F.isFallible k then F.tryFromValue k s v
  else
    match F.hook k with
    | some _ => F.new k v
    | none => F.shortcut k s v

/-- The identifier that a text writes. -/
def parse (F : Family Key) (k : Key) (s : ScalarValue (F.Raw k)) (input : String) :
    Run F (Made F k) :=
  match s.read input with
  | .ok v => F.tryFromValue k s v
  | .error e => pure (.error (.unreadable (F.name k) input (.uuid e)))

/-- The identifier that a text writes, with a line in the log. -/
def fromString (F : Family Key) (k : Key) (s : ScalarValue (F.Raw k)) (input : String) :
    Run F (Made F k) := do
  modify (·.note (.reading k input))
  F.parse k s input

/-- The text of an identifier, with a line in the log. -/
def toText (F : Family Key) (k : Key) (s : ScalarValue (F.Raw k)) (id : F.Id k) :
    Run F String := do
  let text := s.write id.value
  modify (·.note (.written k text))
  return text

end TypedIds.Family
