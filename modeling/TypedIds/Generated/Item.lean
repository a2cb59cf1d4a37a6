import TypedIds.Generated.Expr

/-!
# Items of generated code

Generated code consists of structs, implementations and one block of assertions.  An implementation
is that of a trait or of the type's own members.
-/

set_option autoImplicit false

namespace TypedIds.Generated

/-- A trait: the path before its name, the name, and its argument. -/
structure Trait where
  front : Code
  name : String
  arg : Option Code
  deriving Inhabited

/-- The code of a trait. -/
def Trait.code (t : Trait) : Code :=
  t.front ++ Code.op "::" ++ word t.name ++
    (match t.arg with | some a => Code.angle a | none => [])

/-- A trait of a module of the core library. -/
def Trait.core (module name : String) : Trait := ⟨absolute ["core", module], name, none⟩

/-- A trait of a module of the core library, with its argument. -/
def Trait.coreOf (module name : String) (arg : Code) : Trait :=
  ⟨absolute ["core", module], name, some arg⟩

/-- A function. -/
structure Function where
  /-- Lines of documentation. -/
  docs : List String := []
  visibility : Code := []
  name : String
  params : List Code
  /-- Whether a comma follows the last parameter. -/
  trailing : Bool := false
  output : Option Code
  stmts : List Stmt := []
  result : Expr
  deriving Inhabited

/-- A member of an implementation. -/
inductive Member where
  | function (f : Function)
  | typeAlias (name : String) (type : Code)
  | constant (name : String) (type : Code) (value : Expr)
  deriving Inhabited

/-- Members of a type, its own or those of a trait. -/
structure Implementation where
  /-- A lifetime parameter. -/
  lifetime : Option String := none
  trait : Option Trait
  target : Code
  members : List Member
  deriving Inhabited

/-- The definition of a struct. -/
structure Definition where
  attributes : Code
  derives : List Trait
  visibility : Code
  name : String
  /-- The type of the field `value`; without it there is no body. -/
  value : Option Code
  deriving Inhabited

/-- An item. -/
inductive Item where
  | definition (d : Definition)
  /-- Demands on types: pairs of one that has to be comparable and one that has to be shown. -/
  | assertions (checks : List (Code × Code))
  | implementation (i : Implementation)
  deriving Inhabited

/-! ## Writing out -/

/-- A line of documentation. -/
def docLine (line : String) : Code :=
  mark '#' ++ Code.within .brackets (word "doc" ++ mark '=' ++ [.literal ("r\"" ++ line ++ "\"")])

/-- A list of derived traits. -/
def deriveCode (ts : List Trait) : Code :=
  mark '#' ++ Code.within .brackets
    (word "derive" ++ Code.within .parens (Code.separate (mark ',') (ts.map Trait.code)))

/-- The code of a function. -/
def Function.code (f : Function) : Code :=
  f.docs.flatMap docLine ++ f.visibility ++ word "fn" ++ word f.name ++
    Code.within .parens (Code.separate (mark ',') f.params ++ Code.commaIf f.trailing) ++
    (match f.output with | some t => Code.op "->" ++ t | none => []) ++
    (Expr.block f.stmts f.result).code

/-- The code of a member. -/
def Member.code : Member → Code
  | .function f => f.code
  | .typeAlias name type => word "type" ++ word name ++ mark '=' ++ type ++ mark ';'
  | .constant name type value =>
    word "const" ++ word name ++ mark ':' ++ type ++ mark '=' ++ value.code ++ mark ';'

/-- The code of an implementation. -/
def Implementation.code (i : Implementation) : Code :=
  word "impl" ++ (match i.lifetime with | some l => Code.angle [.lifetime l] | none => []) ++
    (match i.trait with | some t => t.code ++ word "for" | none => []) ++ i.target ++
    Code.within .braces (i.members.flatMap Member.code)

/-- The code of a definition. -/
def Definition.code (d : Definition) : Code :=
  d.attributes ++ deriveCode d.derives ++ d.visibility ++ word "struct" ++ word d.name ++
    (match d.value with
      | some t => Code.within .braces (word "value" ++ mark ':' ++ t ++ mark ',')
      | none => mark ';')

/-- `?` before `Sized`: a parameter that need not have a known size. -/
def unsized : Code := mark '?' ++ absolute ["core", "marker", "Sized"]

/-- A bound by several traits. -/
def boundCode (cs : List Code) : Code := Code.separate (mark '+') cs

/-- A call of a function without parameters that is given a type. -/
def typeCall (name : String) (type : Code) : Code :=
  word name ++ Code.op "::" ++ Code.angle type ++ Code.within .parens [] ++ mark ';'

/-- The code of demands on types. -/
def assertionCode (checks : List (Code × Code)) : Code :=
  let t := word "T"
  let comparable := boundCode [unsized, absolute ["core", "cmp", "Eq"],
    absolute ["core", "cmp", "Ord"], absolute ["core", "hash", "Hash"]]
  let shown := boundCode [unsized, absolute ["core", "fmt", "Display"]]
  word "const" ++ word "_" ++ mark ':' ++ word "fn" ++ Code.within .parens [] ++ mark '=' ++
    bars [] ++ Code.within .braces
      (word "fn" ++ word "assert_component" ++ Code.angle t ++ Code.within .parens [] ++
        word "where" ++ t ++ mark ':' ++ comparable ++ mark ',' ++ Code.within .braces [] ++
        word "fn" ++ word "assert_display" ++ Code.angle (t ++ mark ':' ++ shown) ++
        Code.within .parens [] ++ Code.within .braces [] ++
        checks.flatMap fun (c, s) ↦
          typeCall "assert_component" c ++ typeCall "assert_display" s) ++ mark ';'

/-- The code of an item. -/
def Item.code : Item → Code
  | .definition d => d.code
  | .assertions checks => assertionCode checks
  | .implementation i => i.code

/-- The code of some items. -/
def Item.codeAll (is : List Item) : Code := is.flatMap Item.code

end TypedIds.Generated
