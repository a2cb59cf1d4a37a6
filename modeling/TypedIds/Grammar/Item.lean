import TypedIds.Grammar.Signature
import TypedIds.Grammar.Struct

/-!
# Items

What a module holds.  Structs, inline modules and blocks of members have their parts; every other
item is kept as its code.
-/

set_option autoImplicit false

namespace TypedIds

/-- A function in a block of members. -/
structure Method where
  visibility : Code
  signature : Signature
  deriving Inhabited

/-- A member of a type. -/
inductive Member where
  | method (m : Method)
  | constant (name : String)
  /-- Any other member. -/
  | other
  deriving Inhabited

/-- A block of members of a type. -/
structure MemberBlock where
  /-- Whether the members are those of a trait. -/
  ofTrait : Bool
  selfType : Ty
  members : List Member
  code : Code
  deriving Inhabited

/-- What stands before the items of a module, and around them. -/
structure ModuleHead where
  /-- Attributes, visibility and the words before the name. -/
  before : Code
  name : String
  /-- Attributes at the beginning of the body. -/
  inner : Code
  deriving Inhabited

/-- An item. -/
inductive Item where
  | struct (s : Struct)
  | module (head : ModuleHead) (items : List Item)
  | members (b : MemberBlock)
  | other (code : Code)

instance : Inhabited Item := ⟨.other []⟩

mutual

/-- The code of an item. -/
def Item.code : Item → Code
  | .struct s => s.code
  | .module head items =>
    head.before ++ .word head.name :: Code.within .braces (head.inner ++ Item.codeAll items)
  | .members b => b.code
  | .other code => code

/-- The code of some items. -/
def Item.codeAll : List Item → Code
  | [] => []
  | i :: is => i.code ++ Item.codeAll is

end

end TypedIds
