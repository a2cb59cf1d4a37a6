import TypedIds.Text.Quoted
import TypedIds.Value.Basic

/-!
# The texts of values

A value has two texts.  The display text is for readers: a tuple shows its fields between
parentheses, and a missing value shows nothing.  The debug text names types and fields and quotes
texts.  A format is handed on to every part.

UUIDs have one text that no format changes.  The debug text of texts and characters ignores the
width.
-/

set_option autoImplicit false

namespace TypedIds

open Text

/-- How an identifier shows itself in debug texts: the name of its type, and either the names of the
parts of its value or, for a value without parts, a name for the whole. -/
structure Look where
  name : String
  /-- The name under which the value is shown, if it has one. -/
  label : Option String
  deriving Repr, DecidableEq

variable {Key : Type}

mutual

/-- The display text of a value. -/
def ValueType.display (f : Format) : (t : ValueType Key) → t.Val → List Char
  | .uuid, u => u.write .small
  | .text, s => f.text s.toList
  | .char, c => f.text [c]
  | .truth, b => f.text (if b then "true" else "false").toList
  | .number _ _, n => f.number n.1
  | .option _, none => []
  | .option t, some a => t.display f a
  | .custom c, a => c.display f a
  | .identifier _ t, a => t.display f a.value
  | .tuple fs, a => '(' :: [',', ' '].intercalate (fs.displays f a) ++ [')']

/-- The display texts of the values of fields. -/
def FieldTypes.displays (f : Format) : (fs : FieldTypes Key) → fs.Val → List (List Char)
  | .nil, _ => []
  | .cons _ t fs, a => t.display f a.1 :: fs.displays f a.2

end

mutual

/-- The debug text of a value. -/
def ValueType.debug (look : Key → Look) (f : Format) : (t : ValueType Key) → t.Val → List Char
  | .uuid, u => u.write .small
  | .text, s => quoteText s.toList
  | .char, c => quoteChar c
  | .truth, b => f.text (if b then "true" else "false").toList
  | .number _ _, n => f.number n.1
  | .option _, none => "None".toList
  | .option t, some a => f.wrapped "Some" (t.debug look f a)
  | .custom c, a => c.debug f a
  | .identifier k (.tuple fs), a => f.record (look k).name (fs.debugs look f a.value)
  | .identifier k t, a =>
    match (look k).label with
    | some label => f.record (look k).name [(label, t.debug look f a.value)]
    | none => f.wrapped (look k).name (t.debug look f a.value)
  | .tuple fs, a => f.parts ['('] [')'] ((fs.debugs look f a).map Prod.snd)

/-- The debug texts of the values of fields, with the names of the fields. -/
def FieldTypes.debugs (look : Key → Look) (f : Format) :
    (fs : FieldTypes Key) → fs.Val → List (String × List Char)
  | .nil, _ => []
  | .cons name t fs, a => (name, t.debug look f a.1) :: fs.debugs look f a.2

end

end TypedIds
