import TypedIds.Identifier.Error
import TypedIds.Marker.Kind
import TypedIds.Value.Printer

/-!
# Families of identifier types

A family says for every key what identifier type it names: the name, the type of the wrapped value,
how the value is made up, and the hook.  A scalar identifier wraps a UUID or a text.  A combined one
wraps a tuple, each component of which is plain or an identifier of the family.

The unspecified identifier of a type is built from those of its components, so the family ranks its
types: a component has a lower rank than the identifier it is part of.
-/

set_option autoImplicit false

namespace TypedIds

variable {Key : Type}

/-- What a value needs to be wrapped by a scalar identifier. -/
structure ScalarValue (α : Type) where
  /-- The value that says nothing. -/
  empty : α
  isEmpty : α → Bool
  /-- The value that a text writes. -/
  read : String → Except Uuid.ReadError α
  /-- The text of a value. -/
  write : α → String

namespace ScalarValue

/-- UUIDs; the nil UUID says nothing. -/
def uuid : ScalarValue Uuid :=
  ⟨.nil, Uuid.isNil, fun s ↦ Uuid.read s.toList, fun u ↦ String.ofList (u.write .small)⟩

/-- Texts; every text writes itself. -/
def text : ScalarValue String := ⟨"", String.isEmpty, .ok, id⟩

end ScalarValue

/-- A component of a combined value, with its value in the unspecified identifier. -/
inductive Part (values : Key → ValueType Key) : ValueType Key → Type 1 where
  /-- A plain value. -/
  | plain {t : ValueType Key} (v : t.Val) : Part values t
  /-- An identifier of the type `k`; the unspecified one stands in the unspecified identifier. -/
  | identifier (k : Key) : Part values (.identifier k (values k))

/-- The components of a combined value. -/
inductive Parts (values : Key → ValueType Key) : FieldTypes Key → Type 1 where
  | nil : Parts values .nil
  | cons {name : String} {t : ValueType Key} {fs : FieldTypes Key} (p : Part values t)
      (ps : Parts values fs) : Parts values (.cons name t fs)

/-- How the value of an identifier is made up. -/
inductive Shape (values : Key → ValueType Key) : ValueType Key → Type 1 where
  | guid : Shape values .uuid
  | text : Shape values .text
  | combined {fs : FieldTypes Key} (ps : Parts values fs) : Shape values (.tuple fs)

variable {values : Key → ValueType Key}

/-- The identifier types that a component is made of. -/
def Part.keys {t : ValueType Key} : Part values t → List Key
  | .plain _ => []
  | .identifier k => [k]

/-- The identifier types that the components are made of. -/
def Parts.keys : {fs : FieldTypes Key} → Parts values fs → List Key
  | _, .nil => []
  | _, .cons p ps => p.keys ++ ps.keys

/-- The identifier types that a value is made of. -/
def Shape.keys {t : ValueType Key} : Shape values t → List Key
  | .guid | .text => []
  | .combined ps => ps.keys

/-- The kind of the identifiers that wrap such a value. -/
def Shape.kind {t : ValueType Key} : Shape values t → MarkerKind
  | .guid => .guid
  | .text => .string
  | .combined _ => .combined

/-- What a scalar identifier needs to know of its value; `none` for a combined one. -/
def Shape.scalar? {t : ValueType Key} : Shape values t → Option (ScalarValue t.Val)
  | .guid => some .uuid
  | .text => some .text
  | .combined _ => none

/-- Where an identifier type comes from. -/
inductive Origin where
  | generated
  /-- Written by hand: it logs no rejections, its hook is not asked about the unspecified
  identifier, and its value has a name. -/
  | handWritten
  deriving Repr, DecidableEq, Inhabited

/-- A family of identifier types. -/
structure Family (Key : Type) where
  name : Key → String
  origin : Key → Origin
  /-- The type of the wrapped value. -/
  values : Key → ValueType Key
  shape : (k : Key) → Shape values (values k)
  hook : (k : Key) → Option (HookFunction (values k).Val)
  rank : Key → Nat
  /-- A component is of a lower rank than the identifier. -/
  rank_lt : ∀ k, ∀ p ∈ (shape k).keys, rank p < rank k

namespace Family

/-- The raw values of a type. -/
abbrev Raw (F : Family Key) (k : Key) : Type := (F.values k).Val

/-- The identifiers of a type. -/
abbrev Id (F : Family Key) (k : Key) : Type := Identifier k (F.Raw k)

/-- The kind of the identifiers of a type. -/
def kind (F : Family Key) (k : Key) : MarkerKind := (F.shape k).kind

/-- How the identifiers of a type show themselves. -/
def look (F : Family Key) (k : Key) : Look :=
  match F.origin k with
  | .generated => ⟨F.name k, none⟩
  | .handWritten => ⟨F.name k, some "value"⟩

end Family

end TypedIds
