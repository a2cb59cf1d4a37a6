/-!
# Formats

A format says how a value is set into a field of text: how wide the field is, on which side the text
stands, what fills the rest, and for numbers whether the sign is always shown and whether zeros fill
the field.  A pretty format spreads a value with parts over several lines.
-/

set_option autoImplicit false

namespace TypedIds.Text

/-- On which side of a field a text stands. -/
inductive Alignment where
  | left
  | center
  | right
  deriving Repr, DecidableEq, Inhabited

/-- How a value is written. -/
structure Format where
  /-- What fills the rest of the field. -/
  fill : Char
  /-- Where the text stands; each kind of value has its own side if nothing is said. -/
  alignment : Option Alignment
  /-- Whether a number that is not negative gets a sign. -/
  sign : Bool
  /-- Whether a value with parts is spread over lines. -/
  pretty : Bool
  /-- Whether zeros fill the field of a number, after the sign. -/
  zeros : Bool
  /-- The least number of characters. -/
  width : Nat
  /-- The greatest number of characters of a text. -/
  precision : Option Nat
  deriving Repr, DecidableEq, Inhabited

namespace Format

/-- The format that changes nothing. -/
def plain : Format := ⟨' ', none, false, false, false, 0, none⟩

/-- The plain format, over several lines. -/
def onLines : Format := { plain with pretty := true }

/-- A text in a field, on the given side of it if the format names none. -/
def field (f : Format) (usual : Alignment) (s : List Char) : List Char :=
  let missing := f.width - s.length
  let before :=
    match f.alignment.getD usual with
    | .left => 0
    | .center => missing / 2
    | .right => missing
  List.replicate before f.fill ++ s ++ List.replicate (missing - before) f.fill

/-- A text that is cut to the precision and set to the left. -/
def text (f : Format) (s : List Char) : List Char :=
  f.field .left ((f.precision.map s.take).getD s)

/-- A whole number, set to the right. -/
def number (f : Format) (n : Int) : List Char :=
  let sign := if n < 0 then ['-'] else if f.sign then ['+'] else []
  let digits := Nat.toDigits 10 n.natAbs
  if f.zeros then sign ++ List.replicate (f.width - sign.length - digits.length) '0' ++ digits
  else f.field .right (sign ++ digits)

/-- A text with four blanks before every line, from a place where a line begins or goes on. -/
def indented : (atStart : Bool) → List Char → List Char
  | _, [] => []
  | atStart, c :: rest =>
    (if atStart then List.replicate 4 ' ' else []) ++ c :: indented (c == '\n') rest

/-- The parts of a value between an opening and a closing text: on a line, or each on lines of its
own with a comma after it. -/
def parts (f : Format) (openText closeText : List Char) (ps : List (List Char)) : List Char :=
  if f.pretty then
    openText ++ '\n' :: ps.flatMap (fun p ↦ indented true (p ++ [',', '\n'])) ++ closeText
  else openText ++ [',', ' '].intercalate ps ++ closeText

/-- A name with the value that it wraps. -/
def wrapped (f : Format) (name : String) (p : List Char) : List Char :=
  f.parts (name.toList ++ ['(']) [')'] [p]

/-- A name with named parts. -/
def record (f : Format) (name : String) (ps : List (String × List Char)) : List Char :=
  let named := ps.map fun (n, p) ↦ n.toList ++ [':', ' '] ++ p
  if f.pretty then f.parts (name.toList ++ [' ', '\x7b']) ['\x7d'] named
  else f.parts (name.toList ++ [' ', '\x7b', ' ']) [' ', '\x7d'] named

end Format

end TypedIds.Text
