import TypedIds.Uuid.Reader
import TypedIds.Value.Basic

/-!
# Values as plain data

How values are handed in and out: a UUID as its text, a tuple as a list, a missing value as nothing,
an identifier as its value with the name of its type.  An identifier cannot be made from data, since
its own rules would then not be asked.
-/

set_option autoImplicit false

namespace TypedIds

/-- Plain data. -/
inductive Data where
  | nothing
  | truth (b : Bool)
  | number (n : Int)
  | text (s : String)
  | list (ds : List Data)
  | identifier (typeName : String) (d : Data)
  deriving Repr, Inhabited

variable {Key : Type}

mutual

/-- A value as data. -/
def ValueType.toData (name : Key → String) : (t : ValueType Key) → t.Val → Data
  | .uuid, u => .text (String.ofList (u.write .small))
  | .text, s => .text s
  | .char, c => .text c.toString
  | .truth, b => .truth b
  | .number _ _, n => .number n.1
  | .option _, none => .nothing
  | .option t, some a => t.toData name a
  | .custom c, a => .text (c.toText a)
  | .identifier k t, a => .identifier (name k) (t.toData name a.value)
  | .tuple fs, a => .list ((fs.toData name a).map Prod.snd)

/-- The values of fields as data, with the names of the fields. -/
def FieldTypes.toData (name : Key → String) : (fs : FieldTypes Key) → fs.Val → List (String × Data)
  | .nil, _ => []
  | .cons n t fs, a => (n, t.toData name a.1) :: fs.toData name a.2

end

/-- The text that is one character. -/
def soleChar? (s : String) : Option Char :=
  match s.toList with
  | [c] => some c
  | _ => none

mutual

/-- The value that data stand for; `none` if they are of another shape or out of bounds. -/
def ValueType.ofData? : (t : ValueType Key) → Data → Option t.Val
  | .uuid, .text s => (Uuid.read s.toList).toOption
  | .text, .text s => some s
  | .char, .text s => soleChar? s
  | .truth, .truth b => some b
  | .number least greatest, .number n =>
    if h : least ≤ n ∧ n ≤ greatest then some ⟨n, h⟩ else none
  | .option _, .nothing => some none
  | .option t, d => (t.ofData? d).map some
  | .custom c, .text s => c.ofText? s
  | .tuple fs, .list ds => fs.ofData? ds
  | _, _ => none

/-- The values of fields that a list of data stands for, one for each field. -/
def FieldTypes.ofData? : (fs : FieldTypes Key) → List Data → Option fs.Val
  | .nil, [] => some ()
  | .cons _ t fs, d :: ds => (t.ofData? d).bind fun a ↦ (fs.ofData? ds).map (a, ·)
  | _, _ => none

end

end TypedIds
