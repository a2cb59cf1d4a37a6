import TypedIds.Identifier.Any

/-!
# Steps of a session

What can be done with identifiers, one step at a time, and what can be answered.  Identifiers are
named by the numbers of their slots.  A step that makes no sense is refused.
-/

set_option autoImplicit false

namespace TypedIds

variable {Key : Type}

/-- The ways to make an identifier. -/
inductive Entry where
  /-- From a raw value. -/
  | new
  /-- From a raw value, by the conversion of the standard kind. -/
  | fromValue
  /-- From a text, which is the raw value. -/
  | newText
  /-- From a text, which is the raw value, by the conversion of the standard kind. -/
  | fromText
  /-- From a raw value, by the conversion that may fail. -/
  | tryFromValue
  /-- From what a text writes. -/
  | parse
  /-- From what a text writes, by the converter of the type. -/
  | convert
  /-- From what a text writes, by the converter, with a line in the log. -/
  | fromString
  | default
  | unspecified
  deriving Repr, DecidableEq, Inhabited

/-- Whether the types of an origin and a kind have an entry. -/
def Entry.isOffered (e : Entry) (o : Origin) (k : MarkerKind) : Bool :=
  match e with
  | .parse | .convert | .fromString | .tryFromValue => k.isScalar
  | .default | .unspecified => true
  | .new => o == .generated
  | .fromValue => k.isScalar && o == .generated
  | .newText | .fromText => k == .string && o == .generated

/-- A step of a session. -/
inductive Step (Key : Type) where
  /-- Make an identifier; there is no argument if what was given is no data. -/
  | make (k : Key) (entry : Entry) (argument : Option Data)
  /-- Show the value of an identifier. -/
  | view (slot : Nat)
  /-- Tell whether an identifier is unspecified. -/
  | inspect (slot : Nat)
  /-- Write an identifier and read the text. -/
  | roundTrip (slot : Nat)
  /-- Write an identifier in some form; there is none if what was asked for is no form. -/
  | render (slot : Nat) (form : Option Rendering)
  | compare (first second : Nat)
  | sort (slots : List Nat)

/-- Why a step is not done. -/
inductive Refusal where
  | unknownEntry
  | badArgument
  | noSuchSlot
  | badFormat
  | notScalar
  | incomparable
  deriving Repr, DecidableEq, Inhabited

/-- The answer to a step that is done. -/
inductive Answer {Key : Type} (F : Family Key) where
  /-- An identifier was made and put into the slot. -/
  | made (slot : Nat) (a : AnyIdentifier F)
  /-- No identifier was made. -/
  | failed (e : IdentifierError)
  | viewed (a : AnyIdentifier F)
  | inspected (unspecified equalsDefault : Bool)
  /-- The text, and whether the identifier that it writes is the same. -/
  | roundTrip (text : String) (same : Except IdentifierError Bool)
  | rendered (text : String)
  | compared (a b : AnyIdentifier F) (c : Comparison)
  | sorted (slots : List Nat)

end TypedIds
