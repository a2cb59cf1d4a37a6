import TypedIds.Generated.Shared

/-!
# Combined identifiers

The code of an identifier that wraps a tuple: an accessor for each component, the demands on their
types, and formatting that writes the components between parentheses.

A component whose type is an `Option` is left blank if there is nothing in it.
-/

set_option autoImplicit false

namespace TypedIds.Generated

/-- How the empty value of a type is named in code. -/
def emptyMember (type : Code) : EmptyMember → Expr
  | .constant => .name (within (Code.angle type) ["EMPTY"])
  | .function => .call (within (Code.angle type) ["empty"]) []
  | .nil => .call (within (Code.angle type) ["nil"]) []
  | .new => .call (within (Code.angle type) ["new"]) []

/-- The unspecified value of a component as an expression, given where the library is. -/
def defaultExpr (crate : Path) : ComponentDefault → Expr
  | .identifier t =>
    .clone (.call (within (asTrait t.code (within crate.code ["TypedIdentifier"]))
      ["unspecified"]) [])
  | .null => .name (absolute ["core", "option", "Option", "None"])
  | .empty member t => emptyMember t.code member
  | .default t =>
    .call (within (asTrait t.code (absolute ["core", "default", "Default"])) ["default"]) []

/-- The demands on the types of components: each has to be comparable, and what is written out for
it has to be shown. -/
def demands (cs : List Component) : Item :=
  .assertions (cs.map fun c ↦ (c.ty.code, c.ty.displayed.code))

namespace Combined

section

variable (d : Declaration)

/-- The unspecified values of the components. -/
def defaults : List Expr := d.defaults.map (defaultExpr d.options.crate)

/-- A component of the wrapped tuple. -/
def part (i : Nat) : Expr := .index .wrapped i

/-! ## Own members -/

/-- The constructor. -/
def new : Function :=
  constructor d
    [" Creates a new identifier from its components, running the",
     " validation hook if one is declared."]
    (d.components.map fun c ↦ param c.name c.ty.code) []
    (.tuple (d.names.map Expr.var))

/-- The accessors of the components. -/
def partAccessors : List Function :=
  d.components.zipIdx.map fun (c, i) ↦ accessor [] c.name c.ty.code (part i)

/-- The value without the identifier around it. -/
def intoParts : Function where
  visibility := word "pub"
  name := "into_parts"
  params := [selfParam]
  output := some d.valueType
  result := .wrapped

/-- The own members. -/
def members : List Function :=
  [new d,
   unspecified d
    [" The canonical unspecified identifier, built from each",
     " component's empty value on first use."] (defaults d) (.tuple (defaults d)),
   isUnspecified] ++ partAccessors d ++
  [accessor [" All components, in declaration order."] d.options.valueProperty d.valueType .wrapped,
   intoParts d]

/-! ## Formatting -/

/-- Writes a text that does not change. -/
def writeText (s : String) : Expr := .method (.var "f") "write_str" [.text s]

/-- Writes a component; nothing if it is an `Option` without a value. -/
def writePart (i : Nat) : ComponentDefault → Stmt
  | .null =>
    .ifSome "part" (.borrow (part i)) [.run (.propagate (formatValue "Display" (.var "part")))]
  | _ => .run (.propagate (formatValue "Display" (.borrow (part i))))

/-- Writes a component after a separator, which the first one has not. -/
def writeSeparated (i : Nat) (value : ComponentDefault) : List Stmt :=
  (if i = 0 then [] else [.run (.propagate (writeText ", "))]) ++ [writePart i value]

/-- Writes the components between parentheses. -/
def displayFormat : Implementation :=
  formatting d "Display"
    (.run (.propagate (writeText "(")) ::
      (d.defaults.zipIdx.take d.components.length).flatMap fun (value, i) ↦ writeSeparated i value)
    (writeText ")")

/-- Writes every component with its name. -/
def debugFormat : Implementation :=
  formatting d "Debug" []
    (.method
      (d.components.zipIdx.foldl
        (fun e (c, i) ↦ .method e "field" [.text c.name, .borrow (part i)])
        (.method (.var "f") "debug_struct" [typeLabel d]))
      "finish" [])

/-- All items of a combined identifier. -/
def items : List Item :=
  [.definition (definition d), demands d.components,
   .implementation { trait := none, target := typeName d,
                     members := (members d).map .function },
   .implementation (toValue d), .implementation (displayFormat d),
   .implementation (debugFormat d)] ++ coreTraits d

end

end Combined

end TypedIds.Generated
