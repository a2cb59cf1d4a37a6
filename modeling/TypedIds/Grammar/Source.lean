import TypedIds.Grammar.Item.Reader

/-!
# Reading sources

`nestedTo` fills in the record of readers to a given depth.  Every part takes a token at least
before it comes to a part of its own kind again, and passes through a few other readers on the way,
so a multiple of the number of tokens is deep enough for all that can be read from them.  The places
in a source are counted with 32 bits, so there is a depth that is enough for every source, and a
part is read in the same way wherever it stands.

The other readers of this module are those that the rest of the library reads texts with.
-/

set_option autoImplicit false

namespace TypedIds.Grammar

open Reader

/-- The readers of parts that are nested to a given depth. -/
def nestedTo : (depth : Nat) → Nested
  | 0 => .tooDeep
  | n + 1 =>
    { type := fun plus c ↦ (nestedTo n).typeOf plus c
      arguments := fun c ↦ (nestedTo n).argumentsOf c
      bound := fun captures constants c ↦ (nestedTo n).boundOf captures constants c
      pattern := fun c ↦ (nestedTo n).patternOf c
      operand := fun structs c ↦ (nestedTo n).operandOf structs c
      climb := fun structs base e c ↦ (nestedTo n).climbFrom structs base e c
      clause := fun c ↦ (nestedTo n).clauseOf c
      statements := fun c ↦ (nestedTo n).statementsOf c
      namedFields := fun c ↦ (nestedTo n).namedFieldsOf c
      item := fun c ↦ (nestedTo n).itemOf c }

/-- How deeply parts can be nested in a source: eight times the number of tokens that it can
have. -/
def deepest : Nat := 34359738368

/-- The readers of parts as deeply nested as they can be in a source. -/
def nested : Nested := nestedTo deepest

/-- No source comes near that depth: a few levels can be taken off one by one. -/
theorem exists_nested_eq : ∃ n, nested = nestedTo (n + 8) := ⟨_, rfl⟩

/-- A type. -/
def type : Reader Ty := nested.type true

/-- A path without qualifying type. -/
def path : Reader Path := nested.path

/-- All attributes before an item. -/
def outerAttributes : Reader (List Attribute) := nested.outerAttributes

/-- One function of a block of members. -/
def method : Reader Method := nested.method

/-- A struct. -/
def struct : Reader Struct := nested.struct

/-- An item. -/
def item : Reader Item := nested.item

/-- A module. -/
def module : Reader Item := do nested.moduleAfter (← nested.outerCode)

/-- The items of a source text, whose inner attributes come first. -/
def sourceItems : Reader (List Item) := do
  let _ ← nested.innerCode
  many (!List.isEmpty ·) nested.item

end TypedIds.Grammar
