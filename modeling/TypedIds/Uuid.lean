import TypedIds.Text.Hex

/-!
# UUIDs

A UUID is a number of 128 bits.  It is written as 32 hexadecimal digits in groups of 8, 4, 4, 4 and
12, with hyphens between the groups.  UUIDs are ordered as numbers, which is the order of their
bytes.
-/

set_option autoImplicit false

namespace TypedIds

/-- A UUID. -/
structure Uuid where
  bits : BitVec 128
  deriving Repr, DecidableEq

namespace Uuid

open Text

/-- The UUID with no bit set. -/
def nil : Uuid := ⟨0⟩

/-- A UUID as a number. -/
def toNat (u : Uuid) : Nat := u.bits.toNat

/-- Whether no bit is set. -/
def isNil (u : Uuid) : Bool := u.toNat == 0

/-- UUIDs in the order of their bytes. -/
def order (a b : Uuid) : Ordering := compare a.bits b.bits

/-- How many digits each group has. -/
def groupLengths : List Nat := [8, 4, 4, 4, 12]

/-- A list cut into groups, with a hyphen between each two. -/
def hyphenate : List Nat → List Char → List Char
  | [], s | [_], s => s
  | n :: ns, s => s.take n ++ '-' :: hyphenate ns (s.drop n)

/-- The text of a UUID. -/
def write (letters : LetterCase) (u : Uuid) : List Char :=
  hyphenate groupLengths (fixedHex letters 32 u.toNat)

/-- The UUID that a list of digits writes. -/
def ofDigits (digits : List Char) : Uuid := ⟨BitVec.ofNat 128 (hexNumber digits)⟩

/-- The digits of a UUID write that UUID. -/
theorem ofDigits_fixedHex (letters : LetterCase) (u : Uuid) :
    ofDigits (fixedHex letters 32 u.toNat) = u := by
  have h : u.toNat < Nat.pow 16 32 := u.bits.isLt
  rw [ofDigits, hexNumber_fixedHex h, toNat, BitVec.ofNat_toNat, BitVec.setWidth_eq]

end Uuid

end TypedIds
