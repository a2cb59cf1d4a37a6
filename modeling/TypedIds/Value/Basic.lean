import TypedIds.Text.Format
import TypedIds.Uuid

/-!
# Values

The values that identifiers wrap, described by their types.  A `ValueType` is a basic type, an
option, a type of its own kind, an identifier, or a tuple with named fields; `ValueType.Val` is the
type of its values.  Identifiers are told apart by keys, and two identifier types are the same only
if their keys are.

A type of its own kind brings what the others have by their construction: an order that agrees with
equality, and its texts.
-/

set_option autoImplicit false

namespace TypedIds

/-- A type that is none of the basic ones.  Its values are handed in and out as texts. -/
structure CustomType where
  Carrier : Type
  decEq : DecidableEq Carrier
  order : Carrier → Carrier → Ordering
  /-- The order is one: it can be reversed and chained. -/
  trans : Std.TransCmp order
  /-- Values that are neither before nor after one another are equal. -/
  lawfulEq : Std.LawfulEqCmp order
  display : Text.Format → Carrier → List Char
  debug : Text.Format → Carrier → List Char
  toText : Carrier → String
  ofText? : String → Option Carrier

/-- An identifier of the type `k`, with the value that it wraps. -/
structure Identifier {Key : Type} (k : Key) (α : Type) where
  value : α

/-- Identifiers of one type are equal if their values are. -/
instance {Key α : Type} [DecidableEq α] {k : Key} : DecidableEq (Identifier k α) := fun a b ↦
  decidable_of_iff (a.value = b.value) ⟨fun h ↦ by cases a; cases h; rfl, fun h ↦ h ▸ rfl⟩

mutual

/-- The type of a value. -/
inductive ValueType (Key : Type) : Type 1 where
  | uuid
  | text
  | char
  | truth
  /-- The whole numbers between two bounds, which are included. -/
  | number (least greatest : Int)
  | option (t : ValueType Key)
  | custom (c : CustomType)
  | identifier (k : Key) (t : ValueType Key)
  | tuple (fs : FieldTypes Key)

/-- The fields of a tuple: a name and a type for each. -/
inductive FieldTypes (Key : Type) : Type 1 where
  | nil
  | cons (name : String) (t : ValueType Key) (fs : FieldTypes Key)

end

variable {Key : Type}

mutual

/-- The values of a type. -/
@[reducible]
def ValueType.Val : ValueType Key → Type
  | .uuid => Uuid
  | .text => String
  | .char => Char
  | .truth => Bool
  | .number least greatest => { n : Int // least ≤ n ∧ n ≤ greatest }
  | .option t => Option t.Val
  | .custom c => c.Carrier
  | .identifier k t => Identifier k t.Val
  | .tuple fs => fs.Val

/-- The values of some fields. -/
@[reducible]
def FieldTypes.Val : FieldTypes Key → Type
  | .nil => Unit
  | .cons _ t fs => t.Val × fs.Val

end

namespace ValueType

/-- The numbers from zero that fit into this many bits. -/
@[reducible]
def unsigned (bits : Nat) : ValueType Key := .number 0 (Int.ofNat (Nat.pow 2 bits) - 1)

/-- The numbers of both signs that fit into this many bits. -/
@[reducible]
def signed (bits : Nat) : ValueType Key :=
  .number (-Int.ofNat (Nat.pow 2 (bits - 1))) (Int.ofNat (Nat.pow 2 (bits - 1)) - 1)

end ValueType

/-! ## Equality -/

mutual

/-- Equality of values can be decided. -/
def ValueType.decEq : (t : ValueType Key) → DecidableEq t.Val
  | .uuid => inferInstanceAs (DecidableEq Uuid)
  | .text => inferInstanceAs (DecidableEq String)
  | .char => inferInstanceAs (DecidableEq Char)
  | .truth => inferInstanceAs (DecidableEq Bool)
  | .number least greatest => inferInstanceAs (DecidableEq { n : Int // least ≤ n ∧ n ≤ greatest })
  | .option t =>
    have := t.decEq
    inferInstanceAs (DecidableEq (Option t.Val))
  | .custom c => c.decEq
  | .identifier k t =>
    have := t.decEq
    inferInstanceAs (DecidableEq (Identifier k t.Val))
  | .tuple fs => fs.decEq

/-- Equality of the values of fields can be decided. -/
def FieldTypes.decEq : (fs : FieldTypes Key) → DecidableEq fs.Val
  | .nil => inferInstanceAs (DecidableEq Unit)
  | .cons _ t fs =>
    have := t.decEq
    have := fs.decEq
    inferInstanceAs (DecidableEq (t.Val × fs.Val))

end

instance (t : ValueType Key) : DecidableEq t.Val := t.decEq

instance (fs : FieldTypes Key) : DecidableEq fs.Val := fs.decEq

/-! ## Order -/

mutual

/-- The order of the values of a type.  Texts are ordered by their code points, which is the order
of their bytes; nothing comes before something; the first difference decides between tuples. -/
def ValueType.order : (t : ValueType Key) → t.Val → t.Val → Ordering
  | .uuid, a, b => a.order b
  | .text, a, b => compare a b
  | .char, a, b => compare a b
  | .truth, a, b => compare a b
  | .number _ _, a, b => compare a.1 b.1
  | .option _, none, none => .eq
  | .option _, none, some _ => .lt
  | .option _, some _, none => .gt
  | .option t, some a, some b => t.order a b
  | .custom c, a, b => c.order a b
  | .identifier _ t, a, b => t.order a.value b.value
  | .tuple fs, a, b => fs.order a b

/-- The order of the values of fields. -/
def FieldTypes.order : (fs : FieldTypes Key) → fs.Val → fs.Val → Ordering
  | .nil, _, _ => .eq
  | .cons _ t fs, a, b => (t.order a.1 b.1).then (fs.order a.2 b.2)

end

end TypedIds
