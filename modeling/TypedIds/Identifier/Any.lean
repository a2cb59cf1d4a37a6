import TypedIds.Identifier.Family
import TypedIds.Value.Data

/-!
# Identifiers of any type

An identifier together with its type.  Two of them are equal only if their types are, and there is
no order between identifiers of two types, whatever their values and the names of their types.  In a
list of one type they can be sorted.
-/

set_option autoImplicit false

namespace TypedIds

variable {Key : Type}

/-- An identifier of some type of the family. -/
structure AnyIdentifier {Key : Type} (F : Family Key) where
  key : Key
  id : F.Id key

/-- How an identifier is turned into text. -/
inductive Rendering where
  | display (f : Text.Format)
  | debug (f : Text.Format)
  /-- As digits, for UUIDs. -/
  | hex (letters : Text.LetterCase)
  deriving Repr, DecidableEq

/-- The order between two identifiers of one type as options, and between each and nothing. -/
structure OptionOrder where
  /-- Between the two. -/
  bothThere : Ordering
  /-- Between nothing and the second. -/
  firstMissing : Ordering
  /-- Between the first and nothing. -/
  secondMissing : Ordering
  deriving Repr, DecidableEq

/-- How two identifiers compare. -/
structure Comparison where
  same : Bool
  /-- The order, between identifiers of one type. -/
  order : Option Ordering
  options : Option OptionOrder
  deriving Repr, DecidableEq

namespace Comparison

/-- Whether the first comes before the second.  Identifiers of two types are in no order. -/
def isLT (c : Comparison) : Bool := c.order.any Ordering.isLT

/-- Whether the first does not come after the second. -/
def isLE (c : Comparison) : Bool := c.order.any Ordering.isLE

/-- Whether the first comes after the second. -/
def isGT (c : Comparison) : Bool := c.order.any Ordering.isGT

/-- Whether the first does not come before the second. -/
def isGE (c : Comparison) : Bool := c.order.any Ordering.isGE

/-- Whether the two have one hash, for identifiers of one type: those that are equal do. -/
def sameHash? (c : Comparison) : Option Bool := c.order.map fun _ ↦ c.same

end Comparison

namespace AnyIdentifier

variable {F : Family Key}

/-- The value type of an identifier. -/
def type (a : AnyIdentifier F) : ValueType Key := .identifier a.key (F.values a.key)

/-! ## Showing -/

/-- The value of an identifier as data. -/
def data (a : AnyIdentifier F) : Data := (F.values a.key).toData F.name a.id.value

/-- The components of a combined identifier, with their names. -/
def components (a : AnyIdentifier F) : List (String × Data) :=
  named (F.values a.key) a.id.value
where
  /-- The fields of a tuple as data. -/
  named : (t : ValueType Key) → t.Val → List (String × Data)
    | .tuple fs, v => fs.toData F.name v
    | _, _ => []

/-- An identifier of a UUID type that was generated is written by its digits. -/
def hex? (a : AnyIdentifier F) (letters : Text.LetterCase) : Option (List Char) :=
  match F.origin a.key with
  | .generated => digits (F.values a.key) a.id.value
  | .handWritten => none
where
  /-- The digits of a UUID. -/
  digits : (t : ValueType Key) → t.Val → Option (List Char)
    | .uuid, u => some (u.write letters)
    | _, _ => none

/-- An identifier in the form that is asked for, if it has that form. -/
def render? (a : AnyIdentifier F) : Rendering → Option (List Char)
  | .display f => some (a.type.display f a.id)
  | .debug f => some (a.type.debug F.look f a.id)
  | .hex letters => a.hex? letters

/-! ## Comparing -/

variable [DecidableEq Key]

/-- Equality: of the types first, and then of the values. -/
def same (a b : AnyIdentifier F) : Bool :=
  if h : b.key = a.key then decide (a.id = h ▸ b.id) else false

/-- The order of the values; `none` between identifiers of two types. -/
def order? (a b : AnyIdentifier F) : Option Ordering :=
  if h : b.key = a.key then some ((F.values a.key).order a.id.value (h ▸ b.id).value) else none

/-- The order between two identifiers of one type as options. -/
def optionOrder? (a b : AnyIdentifier F) : Option OptionOrder :=
  if h : b.key = a.key then
    let other : F.Id a.key := h ▸ b.id
    let order := (ValueType.option a.type).order
    some ⟨order (some a.id) (some other), order none (some other), order (some a.id) none⟩
  else none

/-- How an identifier compares to another one. -/
def compare (a b : AnyIdentifier F) : Comparison := ⟨a.same b, a.order? b, a.optionOrder? b⟩

/-- Identifiers with their slots in order, those that are equal as they stood; `none` if two of them
are of different types. -/
def sorted? (as : List (Nat × AnyIdentifier F)) : Option (List (Nat × AnyIdentifier F)) :=
  match as with
  | [] => some []
  | (_, a) :: _ =>
    if as.all fun b ↦ b.2.key = a.key then
      some (as.mergeSort fun a b ↦ a.2.order? b.2 != some .gt)
    else none

end AnyIdentifier

end TypedIds
