import TypedIds.Diagnostic

/-!
# Units on disk

The code of every declaration can also be written to a file of its own, named by its key, in a
directory for units.  `Units` is what that directory holds.  Units may not be asked for at all, and
the place of the directory may be taken by a file, so that no unit can be written.
-/

set_option autoImplicit false

namespace TypedIds

/-- The code that is generated for a declaration, and its key. -/
structure GeneratedUnit where
  key : String
  code : Code
  deriving Repr, DecidableEq, Inhabited

namespace GeneratedUnit

/-- The file of a unit. -/
def fileName (u : GeneratedUnit) : String := u.key ++ ".rs"

end GeneratedUnit

/-- Where units go. -/
inductive Units where
  /-- Units are not written. -/
  | ignored
  /-- The files that have been written, with what they hold; every name stands once. -/
  | directory (files : List (String × Code))
  /-- The directory cannot be made. -/
  | blocked
  deriving Repr, Inhabited

namespace Units

/-- The name of the directory for units. -/
def directoryName : String := "units"

/-- The greatest length of a file name in bytes. -/
def mostBytes : Nat := 255

/-- Why a unit cannot be written. -/
inductive Obstacle where
  /-- The place of the directory is taken. -/
  | taken
  /-- The name of the file is too long. -/
  | tooLong
  deriving Repr, DecidableEq

/-- The wording of an obstacle. -/
def Obstacle.message : Obstacle → String
  | taken => "File exists (os error 17)"
  | tooLong => "File name too long (os error 36)"

/-- What keeps a unit from being written. -/
def obstacle? (us : Units) (u : GeneratedUnit) : Option Obstacle :=
  match us with
  | ignored => none
  | blocked => some .taken
  | directory _ => if u.fileName.utf8ByteSize > mostBytes then some .tooLong else none

/-- The files after one has been written. -/
def put (name : String) (code : Code) : List (String × Code) → List (String × Code)
  | [] => [(name, code)]
  | f :: fs => if f.1 = name then (name, code) :: fs else f :: put name code fs

/-- The problem of a unit that cannot be written. -/
def problem (u : GeneratedUnit) (o : Obstacle) : Problem :=
  .unwritten u.key (directoryName ++ "/" ++ u.fileName) o.message

/-- Writes a unit. -/
def write (us : Units) (u : GeneratedUnit) : Except Diagnostic Units :=
  match us.obstacle? u with
  | some o => .error ⟨problem u o, .nowhere⟩
  | none =>
    match us with
    | directory files => .ok (directory (put u.fileName u.code files))
    | us => .ok us

/-- The files that have been written. -/
def files : Units → List (String × Code)
  | directory fs => fs
  | _ => []

end Units

end TypedIds
