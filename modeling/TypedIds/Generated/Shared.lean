import TypedIds.Declaration
import TypedIds.Generated.Item

/-!
# What all identifiers have

The struct itself, the constructor, the shared unspecified value and the traits that do not depend
on the kind.

The constructor alone calls the hook.  The unspecified value is built through the constructor, so
the hook sees the empty value like any other; if it rejects it, the empty value itself is kept.
-/

set_option autoImplicit false

namespace TypedIds.Generated

/-- A result of the core library. -/
def resultType (value error : Code) : Code :=
  absolute ["core", "result", "Result"] ++ Code.angle (value ++ mark ',' ++ error)

/-- A result that a formatting function yields. -/
def formatResult : Code := absolute ["core", "fmt", "Result"]

/-- A shared reference to a type. -/
def reference (type : Code) : Code := mark '&' ++ type

/-- A parameter with its type. -/
def param (name : String) (type : Code) : Code := word name ++ mark ':' ++ type

/-- The parameter `self`. -/
def selfParam : Code := word "self"

/-- The parameter `self`, borrowed. -/
def selfRef : Code := reference selfParam

/-- A conversion from one type. -/
def fromTrait (type : Code) : Trait := .coreOf "convert" "From" type

/-- A conversion from one type that may fail. -/
def tryFromTrait (type : Code) : Trait := .coreOf "convert" "TryFrom" type

section

variable (d : Declaration)

/-- A path inside of the library that generated code needs. -/
def library (names : List String) : Code := within d.options.crate.code names

/-- A trait of the library that generated code needs. -/
def libraryTrait (name : String) (arg : Option Code) : Trait := ⟨d.options.crate.code, name, arg⟩

/-- The name of the identifier as code. -/
def typeName : Code := word d.name

/-- The name of the identifier as a text. -/
def typeLabel : Expr := .text d.name

/-- The error of the library that generated code needs. -/
def errorType : Code := library d ["TypedIdError"]

/-- Traits that are derived for every identifier. -/
def derivedTraits : List Trait :=
  [.core "clone" "Clone", .core "cmp" "PartialEq", .core "cmp" "Eq", .core "cmp" "PartialOrd",
   .core "cmp" "Ord", .core "hash" "Hash"]

/-- The struct itself. -/
def definition : Definition where
  attributes := Attribute.codeAll d.item.attributes
  derives := derivedTraits
  visibility := d.item.visibility
  name := d.name
  value := some d.valueType

/-! ## The constructor -/

/-- `pub`, unless the constructor is private. -/
def constructorVisibility : Code := if d.options.privateConstructor then [] else word "pub"

/-- What the constructor yields. -/
def constructorOutput : Code :=
  if d.isFallible then resultType selfType (errorType d) else selfType

/-- The identifier that the constructor yields. -/
def constructed : Expr :=
  let e := Expr.construct selfType none
  if d.isFallible then .ok e else e

/-- Turns the error of the hook into a rejection, and returns it. -/
def rejecting (e : Expr) : Expr :=
  .propagate (.method e "map_err" [.closure (word "err")
    (.call (library d ["__private", "reject"]) [typeLabel d, .var "err"])])

/-- The value to wrap: what the hook makes of `input`, or `input` itself if the hook only looks. -/
def checked (input : Expr) : Expr :=
  match d.hook with
  | none => input
  | some h =>
    let looking := fun (after : Expr → Expr) ↦ Expr.block
      [.bind "value" none input,
        .run (after (.ownCall h.name [.clone (.borrow (.var "value"))]))]
      (.var "value")
    match h.returns with
    | .value => .ownCall h.name [input]
    | .resultValue => rejecting d (.ownCall h.name [input])
    | .unit => looking id
    | .resultUnit => looking (rejecting d)

/-- A call of the constructor, as a result. -/
def tryNew (args : List Expr) : Expr :=
  let e := Expr.ownCall "new" args
  if d.isFallible then e else .ok e

/-- The constructor, given its documentation, its parameters and the value that is checked. -/
def constructor (docs : List String) (params : List Code) (before : List Stmt) (input : Expr) :
    Function where
  docs := docs
  visibility := constructorVisibility d
  name := "new"
  params := params
  output := some (constructorOutput d)
  stmts := before ++ [.bind "value" none (checked d input)]
  result := constructed d

/-! ## The unspecified value -/

/-- The unspecified value: the constructor applied to the empty value, or else the empty value. -/
def unspecifiedInit (args : List Expr) (raw : Expr) : Expr :=
  let e := Expr.ownCall "new" args
  if d.isFallible then
    .call (absolute ["core", "result", "Result", "unwrap_or_else"])
      [e, .closure (word "_") (.construct (typeName d) (some raw))]
  else e

/-- The function that yields the unspecified value, which is built once. -/
def unspecified (docs : List String) (args : List Expr) (raw : Expr) : Function :=
  let cell := library d ["__private", "OnceCell"]
  { docs := docs
    visibility := word "pub"
    name := "unspecified"
    params := []
    output := some (reference (.lifetime "static" :: selfType))
    stmts := [.shared "UNSPECIFIED" (cell ++ Code.angle (typeName d))
      (.call (within cell ["new"]) [])]
    result := .method (.var "UNSPECIFIED") "get_or_init"
      [.closure [] (unspecifiedInit d args raw)] }

/-- Whether an identifier is the unspecified one. -/
def isUnspecified : Function where
  visibility := word "pub"
  name := "is_unspecified"
  params := [selfRef]
  output := some (word "bool")
  result := .equal (.var "self") (.ownCall "unspecified" [])

/-! ## Other functions -/

/-- An accessor. -/
def accessor (docs : List String) (name : String) (type : Code) (e : Expr) : Function where
  docs := docs
  visibility := word "pub"
  name := name
  params := [selfRef]
  output := some (reference type)
  result := .borrow e

/-- The conversion of an identifier to its value. -/
def toValue : Implementation where
  trait := some (fromTrait (typeName d))
  target := d.valueType
  members := [.function {
    name := "from"
    params := [param "id" (typeName d)]
    output := some selfType
    result := .field (.var "id") "value" }]

/-- A formatting function of a trait of the core library. -/
def formatting (trait : String) (stmts : List Stmt) (result : Expr) : Implementation where
  trait := some (.core "fmt" trait)
  target := typeName d
  members := [.function {
    name := "fmt"
    params := [selfRef, param "f" (mark '&' ++ word "mut" ++
      absolute ["core", "fmt", "Formatter"] ++ Code.angle [.lifetime "_"])]
    output := some formatResult
    stmts := stmts
    result := result }]

/-- The formatting of a value by a trait of the core library. -/
def formatValue (trait : String) (e : Expr) : Expr :=
  .call (absolute ["core", "fmt", trait, "fmt"]) [e, .var "f"]

/-! ## Traits of every kind -/

/-- The default of an identifier is the unspecified one. -/
def defaultTrait : Implementation where
  trait := some (.core "default" "Default")
  target := typeName d
  members := [.function {
    name := "default"
    params := []
    output := some selfType
    result := .clone (.call (within (typeName d) ["unspecified"]) []) }]

/-- What the library asks of every identifier. -/
def identifierTrait : Implementation where
  trait := some (libraryTrait d "TypedIdentifier" none)
  target := typeName d
  members := [
    .typeAlias "Value" d.valueType,
    .constant "TYPE_NAME" (reference (.lifetime "static" :: word "str")) (typeLabel d),
    .function {
      name := "value"
      params := [selfRef]
      output := some (reference (within selfType ["Value"]))
      result := .borrow .wrapped },
    .function {
      name := "unspecified"
      params := []
      output := some (reference (.lifetime "static" :: selfType))
      result := .call (within (typeName d) ["unspecified"]) [] },
    .function {
      name := "is_unspecified"
      params := [selfRef]
      output := some (word "bool")
      result := .call (within (typeName d) ["is_unspecified"]) [.var "self"] }]

/-- The traits of every kind. -/
def coreTraits : List Item :=
  [.implementation (defaultTrait d), .implementation (identifierTrait d)]

end

end TypedIds.Generated
