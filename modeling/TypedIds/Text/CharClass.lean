import TypedIds.Text.Table.Letter
import TypedIds.Text.Table.Identifier
import TypedIds.Text.Table.Casing
import TypedIds.Text.Table.Hidden

/-!
# Classes of characters

The questions that the rest of the library asks about a character.  Each is answered by an ASCII
rule below 128, where most text lives, and by a table above it.
-/

set_option autoImplicit false

namespace TypedIds.Text

/-- An ASCII rule below 128, a table above it. -/
def classify (ascii : Char → Bool) (table : Ranges) (c : Char) : Bool :=
  if c.toNat < 128 then ascii c else table.holds c.toNat

theorem classify_of_le {ascii : Char → Bool} {table : Ranges} {c : Char} (h : 128 ≤ c.toNat) :
    classify ascii table c = table.holds c.toNat := if_neg (Nat.not_lt.mpr h)

/-- A letter or a number: a character that belongs to a word. -/
def isAlphanumeric (c : Char) : Bool :=
  classify Char.isAlphanum Table.alphabetic c || classify (fun _ ↦ false) Table.numeric c

/-- A capital letter. -/
def isUppercase (c : Char) : Bool := classify Char.isUpper Table.uppercase c

/-- A small letter. -/
def isLowercase (c : Char) : Bool := classify Char.isLower Table.lowercase c

/-- A character that an identifier may begin with. -/
def isIdentifierStart (c : Char) : Bool :=
  c == '_' || classify Char.isAlpha Table.identifierStart c

/-- A character that an identifier may go on with. -/
def isIdentifierContinue (c : Char) : Bool :=
  classify (fun c ↦ c.isAlphanum || c == '_') Table.identifierContinue c

/-- The code points with the property `White_Space`. -/
def Table.blank : Ranges :=
  [(0x9, 0xd), (0x20, 0x20), (0x85, 0x85), (0xa0, 0xa0), (0x1680, 0x1680), (0x2000, 0x200a),
   (0x2028, 0x2029), (0x202f, 0x202f), (0x205f, 0x205f), (0x3000, 0x3000)]

/-- White space of any script. -/
def isBlank (c : Char) : Bool := Table.blank.holds c.toNat

/-- A character with a case: a letter that is upper, lower or title case. -/
def isCased (c : Char) : Bool := classify Char.isAlpha Table.cased c

/-- A character that is passed over when the neighbours of a letter are looked at. -/
def isCaseIgnorable (c : Char) : Bool := Table.caseIgnorable.holds c.toNat

/-- A mark that joins the character before it. -/
def isJoining (c : Char) : Bool := classify (fun _ ↦ false) Table.joining c

/-- A character that a quoted text can show as it is. -/
def isVisible (c : Char) : Bool :=
  if c.toNat < 128 then Nat.ble 32 c.toNat && Nat.blt c.toNat 127
  else !Table.hidden.holds c.toNat

end TypedIds.Text
