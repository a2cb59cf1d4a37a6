import TypedIds.Marker.Resolution

/-!
# What a module tree declares

An index of a module tree tells which structs in it are identifiers, by name only, and what members
are declared for each type, by the path of the module and the name of the type.  Members of traits
are not declared for a type.  Blocks for one type in one module are joined in source order.
-/

set_option autoImplicit false

namespace TypedIds

/-- The members that are declared for a type. -/
structure Members where
  methods : List Method
  constants : List String
  deriving Inhabited

namespace Members

/-- The members of one block. -/
def ofList (ms : List Member) : Members where
  methods := ms.filterMap fun | .method m => some m | _ => none
  constants := ms.filterMap fun | .constant n => some n | _ => none

/-- Members of one block and of a later one. -/
def append (a b : Members) : Members :=
  ⟨a.methods ++ b.methods, a.constants ++ b.constants⟩

/-- Whether there is a constant of this name. -/
def hasConstant (m : Members) (name : String) : Bool := m.constants.contains name

/-- Whether there is a function of this name without parameters. -/
def hasNullary (m : Members) (name : String) : Bool :=
  m.methods.any fun f ↦ f.signature.name == name && f.signature.params.isEmpty

end Members

/-- The path of a module, and the name of a type in it. -/
structure TypeKey where
  path : List String
  name : String
  deriving Repr, DecidableEq, Inhabited

/-- A block of members as the index sees it. -/
structure IndexedBlock where
  key : TypeKey
  members : Members
  deriving Inhabited

mutual

/-- The blocks of members of an item that lies in the module at `path`. -/
def Item.blocks (path : List String) : Item → List IndexedBlock
  | .struct _ => []
  | .module head items => Item.blocksAll (path ++ [head.name]) items
  | .members b =>
    match b.ofTrait, b.selfType.lastName? with
    | false, some name => [⟨⟨path, name⟩, Members.ofList b.members⟩]
    | _, _ => []
  | .other _ => []

/-- The blocks of members of some items that lie in the module at `path`. -/
def Item.blocksAll (path : List String) : List Item → List IndexedBlock
  | [] => []
  | i :: is => i.blocks path ++ Item.blocksAll path is

end

mutual

/-- The names of the marked structs of an item. -/
def Item.marked : Item → List String
  | .struct s => if s.attributes.any (·.isMarker) then [s.name] else []
  | .module _ items => Item.markedAll items
  | .members _ => []
  | .other _ => []

/-- The names of the marked structs of some items. -/
def Item.markedAll : List Item → List String
  | [] => []
  | i :: is => i.marked ++ Item.markedAll is

end

/-- What a module tree declares. -/
structure Index where
  /-- Names of the marked structs. -/
  identifiers : List String
  /-- Members by the type they are declared for; every key stands once. -/
  entries : List IndexedBlock
  deriving Inhabited

namespace Index

/-- The index of nothing. -/
def empty : Index := ⟨[], []⟩

/-- Adds a block to the entry of its key, or as a new entry at the end. -/
def insert (b : IndexedBlock) : List IndexedBlock → List IndexedBlock
  | [] => [b]
  | e :: es =>
    if e.key = b.key then ⟨e.key, e.members.append b.members⟩ :: es else e :: insert b es

/-- The index of some items. -/
def ofItems (items : List Item) : Index where
  identifiers := Item.markedAll items
  entries := (Item.blocksAll [] items).foldl (fun es b ↦ insert b es) []

/-- The members of a type in the module at `path`. -/
def membersOf? (x : Index) (path : List String) (name : String) : Option Members :=
  (x.entries.find? (·.key = ⟨path, name⟩)).map IndexedBlock.members

/-- The members of every type of this name, in any module. -/
def membersNamed (x : Index) (name : String) : List Members :=
  (x.entries.filter (·.key.name == name)).map IndexedBlock.members

/-- Whether a struct of this name is marked. -/
def isIdentifier (x : Index) (name : String) : Bool := x.identifiers.contains name

end Index

end TypedIds
