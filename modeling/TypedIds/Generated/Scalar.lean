import TypedIds.Generated.Shared

/-!
# Scalar identifiers

The code of an identifier that wraps a UUID or a text: its own members, conversions from and to the
value, formatting, and the converter from and to text.

Without a hook, a conversion from the empty value yields a copy of the unspecified identifier.  With
a hook every conversion goes through the constructor.
-/

set_option autoImplicit false

namespace TypedIds.Generated.Scalar

section

variable (d : Declaration)

/-- The type of the value. -/
def valueType : Code := d.scalar.ty.code

/-- A function of the value type that the library defines. -/
def valueCall (name : String) (args : List Expr) : Expr :=
  .call (within (asTrait (valueType d) (library d ["ScalarValue"])) [name]) args

/-- The empty value. -/
def empty : Expr := valueCall d "empty" []

/-- Whether the variable `value` is the empty value. -/
def isEmpty : Expr := valueCall d "is_empty_value" [.borrow (.var "value")]

/-- The unspecified identifier, copied. -/
def unspecifiedCopy : Expr := .clone (.ownCall "unspecified" [])

/-- The shortcut for the empty value, which only an identifier without hook has. -/
def emptyShortcut (result : Expr → Expr) : List Stmt :=
  if d.hook.isSome then [] else [.returnIf (isEmpty d) (result unspecifiedCopy)]

/-! ## Own members -/

/-- The constructor.  That of a text takes whatever can be converted to one. -/
def new : Function :=
  let input := Expr.var d.scalar.name
  let docs := [" Creates a new identifier, running the validation hook if one is declared."]
  let into := absolute ["core", "convert", "Into"]
  match d.kind with
  | .string =>
    constructor d docs [param d.scalar.name (word "impl" ++ into ++ Code.angle (valueType d))]
      [.bind d.scalar.name (some (valueType d)) (.call (within into ["into"]) [input])] input
  | _ => constructor d docs [param d.scalar.name (valueType d)] [] input

/-- The type that the accessor yields a reference to. -/
def accessorType : Code := if d.kind = .string then word "str" else valueType d

/-- The own members. -/
def members : List Function :=
  [new d,
   unspecified d
    [" The canonical unspecified identifier: the empty value, checked",
     " by the hook on first use."] [empty d] (empty d),
   isUnspecified,
   accessor [] d.scalar.name (accessorType d) .wrapped]

/-! ## Conversions -/

/-- The conversion that may fail, of the variable `value`. -/
def tryFromValue : Expr :=
  .call (within (asTrait selfType (library d ["ScalarIdentifier"])) ["try_from_value"])
    [.var "value"]

/-- What a conversion that may fail yields. -/
def tryOutput (error : Code) : Code := resultType selfType error

/-- The conversion from the value. -/
def fromValue : Implementation :=
  if d.isFallible then
    { trait := some (tryFromTrait (valueType d))
      target := typeName d
      members := [
        .typeAlias "Error" (errorType d),
        .function {
          name := "try_from"
          params := [param "value" (valueType d)]
          output := some (tryOutput (within selfType ["Error"]))
          result := tryFromValue d }] }
  else
    { trait := some (fromTrait (valueType d))
      target := typeName d
      members := [.function {
        name := "from"
        params := [param "value" (valueType d)]
        output := some selfType
        stmts := emptyShortcut d id
        result := .ownCall "new" [.var "value"] }] }

/-- A borrowed text. -/
def borrowedText : Code := reference (.lifetime "a" :: word "str")

/-- A text of its own, copied from the borrowed one. -/
def ownedText : Expr :=
  .call (absolute ["std", "borrow", "ToOwned", "to_owned"]) [.var "value"]

/-- The conversion from a borrowed text. -/
def fromText : Implementation :=
  if d.isFallible then
    { lifetime := some "a"
      trait := some (tryFromTrait borrowedText)
      target := typeName d
      members := [
        .typeAlias "Error" (errorType d),
        .function {
          name := "try_from"
          params := [param "value" borrowedText]
          output := some (tryOutput (within selfType ["Error"]))
          stmts := [.bind "value" none ownedText]
          result := tryFromValue d }] }
  else
    { lifetime := some "a"
      trait := some (fromTrait borrowedText)
      target := typeName d
      members := [.function {
        name := "from"
        params := [param "value" borrowedText]
        output := some selfType
        stmts := [.bind "value" (some (valueType d)) ownedText]
        result := .call (within (asTrait selfType (fromTrait (valueType d)).code) ["from"])
          [.var "value"] }] }

/-- A view of the value as another type. -/
def asRef (type : Code) : Implementation where
  trait := some (.coreOf "convert" "AsRef" type)
  target := typeName d
  members := [.function {
    name := "as_ref"
    params := [selfRef]
    output := some (reference type)
    result := .borrow .wrapped }]

/-- All conversions. -/
def conversions : List Implementation :=
  [fromValue d] ++ (if d.kind = .string then [fromText d] else []) ++
    [toValue d, asRef d (valueType d)] ++
    (if d.kind = .string then [asRef d (word "str")] else [])

/-! ## Formatting -/

/-- The formatting of the wrapped value by a trait. -/
def formatAs (trait : String) : Implementation :=
  formatting d trait [] (formatValue trait (.borrow .wrapped))

/-- The formatting for those who write the program. -/
def debugFormat : Implementation :=
  formatting d "Debug" []
    (.method (.method (.method (.var "f") "debug_tuple" [typeLabel d]) "field"
      [.borrow .wrapped]) "finish" [])

/-- All formatting.  UUIDs are written to the base 16 too. -/
def formats : List Implementation :=
  [formatAs d "Display", debugFormat d] ++
    (if d.kind = .guid then [formatAs d "LowerHex", formatAs d "UpperHex"] else [])

/-! ## The converter -/

section

variable (converter : String)

/-- The trait of converters from and to a type. -/
def converterTrait (type : Code) : Trait :=
  libraryTrait d "TypeToStringConverter" (some type)

/-- What the library asks of scalar identifiers. -/
def scalarTrait : Implementation where
  trait := some (libraryTrait d "ScalarIdentifier" none)
  target := typeName d
  members := [
    .typeAlias "Converter" (word converter),
    .function {
      name := "try_from_value"
      params := [param "value" (valueType d)]
      trailing := true
      output := some (tryOutput (errorType d))
      stmts := emptyShortcut d .ok
      result := tryNew d [.var "value"] },
    .function {
      name := "into_value"
      params := [selfParam]
      output := some (valueType d)
      result := .wrapped }]

/-- Reading an identifier from a text. -/
def fromStr : Implementation where
  trait := some (.core "str" "FromStr")
  target := typeName d
  members := [
    .typeAlias "Err" (errorType d),
    .function {
      name := "from_str"
      params := [param "text" (reference (word "str"))]
      output := some (tryOutput (within selfType ["Err"]))
      result := .call (within (asTrait (word converter) (converterTrait d selfType).code)
        ["convert_from_string"]) [.var "text"] }]

/-- The converter itself. -/
def converterDefinition : Definition where
  attributes := mark '#' ++ Code.within .brackets (word "doc" ++ mark '=' ++
    (Expr.text ("Converts [`" ++ d.name ++ "`] to and from its textual form.")).code)
  derives := [.core "fmt" "Debug", .core "clone" "Clone", .core "marker" "Copy",
    .core "default" "Default"]
  visibility := d.item.visibility
  name := converter
  value := none

/-- Reads the value from the variable `text`, and returns the error if it cannot be read. -/
def parsed : Expr :=
  .propagate (.method (valueCall d "parse_text" [.var "text"]) "map_err"
    [.closure (word "err")
      (.call (within (errorType d) ["parse"]) [typeLabel d, .var "text", .var "err"])])

/-- What the converter does. -/
def converterMembers : Implementation where
  trait := some (converterTrait d (typeName d))
  target := word converter
  members := [
    .function {
      name := "convert_to_string"
      params := [param "value" (reference (typeName d))]
      output := some (absolute ["std", "string", "String"])
      result := .call (absolute ["std", "string", "ToString", "to_string"])
        [.borrow (.field (.var "value") "value")] },
    .function {
      name := "convert_from_string"
      params := [param "text" (reference (word "str"))]
      trailing := true
      output := some (resultType (typeName d) (errorType d))
      stmts := [.bind "value" none (parsed d)]
      result := .call
        (within (asTrait (typeName d) (library d ["ScalarIdentifier"])) ["try_from_value"])
        [.var "value"] }]

end

/-- All items of a scalar identifier whose converter has the given name. -/
def items (converter : String) : List Item :=
  .definition (definition d) ::
    .implementation { trait := none, target := typeName d,
                      members := (members d).map .function } ::
    (conversions d ++ formats d).map .implementation ++ coreTraits d ++
    [.implementation (scalarTrait d converter), .implementation (fromStr d converter),
     .definition (converterDefinition d converter),
     .implementation (converterMembers d converter)]

end

end TypedIds.Generated.Scalar
