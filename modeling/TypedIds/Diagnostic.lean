import TypedIds.Marker.Kind

/-!
# Diagnostics

Everything that can be wrong with a text or a declaration is one `Problem`; a `Diagnostic` is a
problem and the span it is about.  The wording of all problems is in `Problem.message`, so the rest
of the library speaks of causes only.

Most problems of reading say what was wanted at some token.  Of these, those about words, literals
and groups tell when there was no token left; those about punctuation do not.
-/

set_option autoImplicit false

namespace TypedIds

/-- What a reader may want to see next. -/
inductive Wanted where
  /-- This word. -/
  | keyword (word : String)
  /-- This operator. -/
  | operator (marks : String)
  /-- A word that is no keyword. -/
  | name
  /-- A word that is no keyword, or `_`. -/
  | anyWord
  | lifetime
  | literal
  | textLiteral
  | truthLiteral
  /-- A group between these delimiters. -/
  | group (d : Delimiter)
  /-- A group between any delimiters. -/
  | anyGroup
  | nameOrUnderscore
  | expression
  /-- A loop or a block, after a label. -/
  | labelled
  /-- The name or the number of a field. -/
  | fieldName
  /-- The end of a range that includes it. -/
  | rangeEnd
  deriving Repr, DecidableEq, Inhabited

/-- What is wanted, as messages call it. -/
def Wanted.text : Wanted → String
  | .keyword w => "`" ++ w ++ "`"
  | .operator m => "`" ++ m ++ "`"
  | .name => "identifier"
  | .anyWord => "ident"
  | .lifetime => "lifetime"
  | .literal => "literal"
  | .textLiteral => "string literal"
  | .truthLiteral => "boolean literal"
  | .group .parens => "parentheses"
  | .group .brackets => "square brackets"
  | .group .braces => "curly braces"
  | .anyGroup => "delimiter"
  | .nameOrUnderscore => "identifier or underscore"
  | .expression => "an expression"
  | .labelled => "loop or block expression"
  | .fieldName => "identifier or integer"
  | .rangeEnd => "range upper bound"

/-- A list of alternatives: one, two, or more. -/
def Wanted.textAll : List Wanted → String
  | [] => "nothing"
  | [a] => "expected " ++ a.text
  | [a, b] => "expected " ++ a.text ++ " or " ++ b.text
  | ws => "expected one of: " ++ ", ".intercalate (ws.map Wanted.text)

/-- Why a literal is no number of a field. -/
inductive IndexProblem where
  | noWholeNumber
  | suffix
  | sign
  | tooLarge
  deriving Repr, DecidableEq, Inhabited

/-- The wording of what is wrong with the number of a field. -/
def IndexProblem.message : IndexProblem → String
  | noWholeNumber => "expected integer literal"
  | suffix => "expected unsuffixed integer"
  | sign => "invalid digit found in string"
  | tooLarge => "number too large to fit in target type"

/-- What can be wrong. -/
inductive Problem where
  /-- Something else stands here; `atEnd` if nothing does. -/
  | wanted (alternatives : List Wanted) (atEnd : Bool)
  /-- A keyword stands where a name is wanted. -/
  | keywordAsName (word : String)
  /-- A path ends in `::`. -/
  | pathEnd (atEnd : Bool)
  /-- A token is left over, in a group with this closing delimiter. -/
  | leftover (inside : Option Delimiter)
  /-- Nothing fits here. -/
  | unfit (atEnd : Bool)
  /-- An attribute that needs a list has none. -/
  | listMissing (attr : String)
  /-- An attribute that needs a list has a value. -/
  | listInstead (attr : String)
  /-- A text cannot be cut into tokens. -/
  | noTokens
  /-- A literal has a suffix that means nothing. -/
  | suffix (text : String)
  /-- A type names lifetimes only. -/
  | noTrait (existential : Bool)
  /-- A second receiver, or one that is not the first parameter. -/
  | receiver (second : Bool)
  /-- A construct that is not allowed at its place. -/
  | notAllowed (what : String)
  /-- A literal after a point is no number of a field. -/
  | fieldIndex (p : IndexProblem)
  /-- A statement is not ended. -/
  | statementEnd
  /-- A comparison of a comparison. -/
  | chainedComparison
  /-- Something follows a cast that belongs to no cast. -/
  | castFollowed (what : String)
  /-- Attributes before a range without start. -/
  | rangeAttributes
  /-- An attribute as the value of another one. -/
  | nestedAttribute
  /-- A `break` with a labelled loop as its value. -/
  | labelledBreak
  /-- A range without start or end as a part of a slice pattern. -/
  | openRangeInSlice
  /-- A block of members of no trait has the mark of a negative one. -/
  | negativeInherent
  /-- Generic parameters after `where`. -/
  | whereGenerics
  /-- A `?` before a bound that has a `for<…>`. -/
  | relaxedBinder
  /-- Trees are nested more deeply than the reader follows. -/
  | tooDeep
  /-- A marker has a value instead of a list. -/
  | markerValue
  /-- A scalar marker lists components. -/
  | scalarComponents (kind : MarkerKind)
  /-- A component has no type. -/
  | componentType (name : String)
  /-- A property name holds no letter or number. -/
  | propertyEmpty
  /-- A property name is no name. -/
  | propertyInvalid (name : String)
  /-- The `check` option names no function. -/
  | checkName
  /-- An option is not known. -/
  | unknownOption (key : String)
  /-- An option has no value. -/
  | optionValue (key : String)
  /-- An option is given twice. -/
  | duplicateOption (key : String)
  /-- The struct is generic. -/
  | genericStruct (kind : MarkerKind)
  /-- The struct has fields. -/
  | structFields (kind : MarkerKind) (type : String)
  /-- A trait is derived that is generated too. -/
  | derivedTrait (kind : MarkerKind) (trait type : String)
  /-- There are too few or too many components. -/
  | componentCount (least most found : Nat)
  /-- Two components have one name. -/
  | duplicateComponent (name first : String)
  /-- A component is named like the accessor of the value. -/
  | accessorClash (name : String)
  /-- A component is named like a generated member. -/
  | reservedComponent (name : String)
  /-- The accessor of the value is named like a generated member. -/
  | reservedProperty (name : String)
  /-- A component cannot be compared for equality. -/
  | noEquality (component type : String)
  /-- A struct has two markers. -/
  | twoMarkers (first second : MarkerKind)
  /-- A struct that a marker is applied to has another marker. -/
  | otherMarker (kind : MarkerKind)
  /-- A marker is applied to something that is no struct. -/
  | notStruct (kind : MarkerKind)
  /-- The module form has arguments. -/
  | moduleArguments
  /-- The module form is applied to a module without body. -/
  | moduleBody
  /-- A generated unit cannot be written. -/
  | unwritten (key file reason : String)
  deriving Repr, DecidableEq, Inhabited

/-- How a message begins when the tokens have come to an end. -/
def Problem.atEndText (atEnd : Bool) : String :=
  if atEnd then "unexpected end of input, " else ""

/-- An attribute with a list, as messages show it. -/
def Problem.listForm (attr : String) : String := "#[" ++ attr ++ "(...)]"

/-- The wording of a problem. -/
def Problem.message : Problem → String
  | wanted ws atEnd => atEndText atEnd ++ Wanted.textAll ws
  | keywordAsName w => "expected identifier, found keyword `" ++ w ++ "`"
  | pathEnd atEnd => atEndText atEnd ++ "expected path segment after `::`"
  | leftover none => "unexpected token"
  | leftover (some d) => "unexpected token, expected `" ++ String.singleton d.closing ++ "`"
  | unfit atEnd => if atEnd then "unexpected end of input" else "unexpected token"
  | listMissing a => "expected attribute arguments in parentheses: " ++ listForm a
  | listInstead a => "expected parentheses: " ++ listForm a
  | noTokens => "cannot parse string into token stream"
  | suffix t => "unexpected suffix `" ++ t ++ "` on string literal"
  | noTrait false => "at least one trait is required for an object type"
  | noTrait true => "at least one trait must be specified"
  | receiver false => "unexpected method receiver"
  | receiver true => "unexpected second method receiver"
  | notAllowed what => what ++ " is not allowed here"
  | fieldIndex p => p.message
  | statementEnd => "unexpected token, expected `;`"
  | chainedComparison => "comparison operators cannot be chained"
  | castFollowed what => "casts cannot be followed by " ++ what
  | rangeAttributes => "attributes are not allowed on range expressions starting with `..`"
  | nestedAttribute => "unexpected attribute inside of attribute"
  | labelledBreak => "parentheses required"
  | openRangeInSlice => "range pattern is not allowed unparenthesized inside slice pattern"
  | negativeInherent => "inherent impls cannot be negative"
  | whereGenerics => "generic parameters on `where` clauses are reserved for future use"
  | relaxedBinder => "`for<...>` binder not allowed with `?` trait polarity modifier"
  | tooDeep => "tokens are nested too deeply"
  | markerValue => "identifier markers take a parenthesized argument list, not `= value`"
  | scalarComponents k =>
    "`#[" ++ k.attributeName ++ "]` wraps a single built-in value and does not take components"
  | componentType n => "component `" ++ n ++ "` requires a type: `" ++ n ++ ": Type`"
  | propertyEmpty => "property name cannot be empty"
  | propertyInvalid n => "`" ++ n ++ "` is not a valid Rust identifier for a property name"
  | checkName => "`check` must name a function, e.g. `check = \"check_value\"`"
  | unknownOption k =>
    "unknown option `" ++ k ++
      "`. Expected: value, private_constructor, check, crate, or a `name: Type` component"
  | optionValue k => "`" ++ k ++ "` requires a string value: `" ++ k ++ " = \"...\"`"
  | duplicateOption k => "duplicate option `" ++ k ++ "`"
  | genericStruct k => "#[" ++ k.attributeName ++ "] cannot be used on a generic struct"
  | structFields k s =>
    "#[" ++ k.attributeName ++ "] generates the fields of `" ++ s ++ "`; declare it as `struct " ++
      s ++ ";`"
  | derivedTrait k t s =>
    "#[" ++ k.attributeName ++ "] already implements `" ++ t ++ "` for `" ++ s ++
      "`; remove it from the derive list"
  | componentCount least most found =>
    "#[combined_id] requires between " ++ toString least ++ " and " ++ toString most ++
      " components, found " ++ toString found
  | duplicateComponent n first =>
    "duplicate component `" ++ n ++ "` (first declared as `" ++ first ++ "`)"
  | accessorClash n =>
    "component `" ++ n ++ "` clashes with the value accessor; rename it or set `value = \"...\"`"
  | reservedComponent n => "component name `" ++ n ++ "` is reserved for a generated member"
  | reservedProperty n => "value property `" ++ n ++ "` is reserved for a generated member"
  | noEquality c t =>
    "component `" ++ c ++ "` has type `" ++ t ++
      "`, which does not implement `Eq`; combined identifier components must support equality"
  | twoMarkers a b =>
    "`" ++ a.attributeName ++ "` already marks this struct as an identifier; `#[" ++
      b.attributeName ++ "]` cannot be combined with it"
  | otherMarker k =>
    "`" ++ k.attributeName ++
      "` already marks this struct as an identifier; only one marker is allowed"
  | notStruct k => "#[" ++ k.attributeName ++ "] can only be applied to a struct"
  | moduleArguments => "#[strong_ids] takes no arguments"
  | moduleBody => "#[strong_ids] requires an inline module: `mod name \x7b ... \x7d`"
  | unwritten key file reason =>
    "failed to write generated unit `" ++ key ++ "` to " ++ file ++ ": " ++ reason

/-- A problem, and what it is about. -/
structure Diagnostic where
  problem : Problem
  span : Span
  deriving Repr, DecidableEq, Inhabited

/-- The wording of a diagnostic. -/
def Diagnostic.message (d : Diagnostic) : String := d.problem.message

end TypedIds
