import TypedIds.Grammar.Source
import TypedIds.Naming
import TypedIds.Token.Literal

/-!
# Arguments of a marker

The arguments of a marker are entries with commas between them, in any order.  An entry is a
component, `name: Type`, or an option:

* `value = "Name"` names the accessor of the wrapped value, by the snake case of the name;
* `private_constructor`, or with a truth value, keeps the constructor private;
* `check = "name"` names the function that checks a value;
* `crate = "path"` is where generated code finds the library it needs.

No option may be given twice.  A scalar identifier has no component entries; its only component is
the wrapped value, named like the accessor.

The type of a UUID is read a second time, from the path of the library and the name `Uuid`.  Nothing
reports that it cannot be read: a path that begins no type stops the whole expansion.
-/

set_option autoImplicit false

namespace TypedIds

/-- A component of an identifier. -/
structure Component where
  name : String
  ty : Ty
  /-- The span of the name. -/
  span : Span
  /-- The span of the type. -/
  tySpan : Span
  deriving Inhabited

/-- The options of a marker. -/
structure Options where
  /-- The accessor of the wrapped value. -/
  valueProperty : String
  /-- Where the accessor is named. -/
  propertySpan : Span
  privateConstructor : Bool
  /-- The function that checks a value, if it is given. -/
  check : Option String
  /-- Where generated code finds the library it needs. -/
  crate : Path
  deriving Inhabited

/-- The options if none is given. -/
def Options.default : Options :=
  ⟨"value", .nowhere, false, none, Path.ofNames true [] "strong_id"⟩

/-- What the arguments of a marker say. -/
structure MarkerArgs where
  components : List Component
  options : Options
  /-- Where the marker is. -/
  span : Span
  deriving Inhabited

/-- The entries that have been read: the components, and each option at most once. -/
structure Entries where
  components : List Component
  value : Option (String × Span)
  privateConstructor : Option Bool
  check : Option String
  crate : Option Path
  deriving Inhabited

namespace Entries

/-- No entries. -/
def empty : Entries := ⟨[], none, none, none, none⟩

/-- The options, with the default for each that is not given. -/
def options (e : Entries) : Options :=
  let d := Options.default
  { valueProperty := (e.value.map Prod.fst).getD d.valueProperty
    propertySpan := (e.value.map Prod.snd).getD d.propertySpan
    privateConstructor := e.privateConstructor.getD d.privateConstructor
    check := e.check
    crate := e.crate.getD d.crate }

end Entries

namespace Grammar

open Reader

/-- A string literal and its span. -/
def textLiteral : Reader (TextLiteral × Span) := do
  match ← rest with
  | .literal t s :: _ =>
    match TextLiteral.ofText? t with
    | some l => drop 1; return (l, s)
    | none => want [.textLiteral]
  | _ => want [.textLiteral]

/-- A truth value. -/
def truthLiteral : Reader Bool := do
  match ← rest with
  | .word w _ :: _ =>
    if w == "true" || w == "false" then drop 1; return w == "true" else want [.truthLiteral]
  | _ => want [.truthLiteral]

/-- Reads the value of a string literal as code.  All of it has the span of the literal. -/
def readText {α : Type} (p : Reader α) (l : TextLiteral) (s : Span) : Except Diagnostic α := do
  match Tree.read l.value with
  | .error _ => throw ⟨.noTokens, .nowhere⟩
  | .ok ts =>
    let a ← run p s (Tree.respanAll s ts)
    if l.suffix.isEmpty then return a else throw ⟨.suffix l.suffix, s⟩

/-- Whether the next entry is a component. -/
def startsComponent (ts : List Tree) : Bool :=
  Ahead.name ts && Ahead.operator ":" (ts.drop 1) && !Ahead.operator "::" (ts.drop 1)

/-- A component: a name and a type. -/
def component : Reader Component := do
  let (n, s) ← name
  operator ":"
  let (t, taken) ← mapError (fun d ↦ ⟨.componentType n, d.span⟩) (taking type)
  return ⟨n, t, s, Tree.spanAll taken⟩

/-- The string literal that is the value of an option. -/
def optionText (key : String) (s : Span) : Reader (TextLiteral × Span) := do
  if ← sees (Ahead.operator "=") then
    operator "="
    textLiteral
  else fail (.optionValue key) s

/-- Sets an option that is not set yet. -/
def setOnce {α : Type} (slot : Option α) (a : α) (key : String) (s : Span) : Reader (Option α) :=
  if slot.isSome then fail (.duplicateOption key) s else return some a

/-- An option. -/
def option (e : Entries) : Reader Entries := do
  let (key, s) ← anyWord
  if key == "value" then
    let (l, place) ← optionText key s
    match propertyName l.value with
    | .error p => fail p place
    | .ok n => return { e with value := ← setOnce e.value (n, place) key s }
  else if key == "private_constructor" then
    let flag ← if ← operator? "=" then truthLiteral else pure true
    return { e with privateConstructor := ← setOnce e.privateConstructor flag key s }
  else if key == "check" then
    let (l, place) ← optionText key s
    match readText name l place with
    | .error _ => fail .checkName place
    | .ok (n, _) => return { e with check := ← setOnce e.check n key s }
  else if key == "crate" then
    let (l, place) ← optionText key s
    match readText path l place with
    | .error d => fail d.problem d.span
    | .ok p => return { e with crate := ← setOnce e.crate p key s }
  else fail (.unknownOption key) s

/-- An entry. -/
def entry (e : Entries) : Reader Entries := do
  if ← sees startsComponent then
    let c ← component
    return { e with components := e.components ++ [c] }
  else option e

/-- Entries with commas between them, to the end of the trees. -/
def entriesFor (e : Entries) : (rounds : Nat) → Reader Entries
  | 0 => do fail .tooDeep (← here)
  | n + 1 => do
    if ← atEnd then return e
    let e ← entry e
    if ← atEnd then return e
    operator ","
    entriesFor e n

/-- Entries with commas between them, to the end of the trees. -/
def entries : Reader Entries := do entriesFor .empty ((← rest).length + 1)

end Grammar

/-- The only component of a scalar identifier: the wrapped value, with its type as it is written.
Whether that can be read as a type is asked by `MarkerArgs.typed`. -/
def scalarComponent (kind : MarkerKind) (o : Options) : Component :=
  let ty :=
    match kind with
    | .guid => (o.crate.child "Uuid").toTy
    | _ => (Path.ofNames true ["std", "string"] "String").toTy
  ⟨o.valueProperty, ty, o.propertySpan, o.propertySpan⟩

/-- The arguments of a marker at `span`, as they are written. -/
def MarkerArgs.read (kind : MarkerKind) (args : List Tree) (span : Span) :
    Except Diagnostic MarkerArgs := do
  let e ← Grammar.entries.run .nowhere args
  if kind.isScalar then
    match e.components with
    | c :: _ => throw ⟨.scalarComponents kind, c.span⟩
    | [] => return ⟨[scalarComponent kind e.options], e.options, span⟩
  else return ⟨e.components, e.options, span⟩

/-- The arguments, if the type of a UUID can be read from the path of the library. -/
def MarkerArgs.typed (kind : MarkerKind) (m : MarkerArgs) : Except NotAName MarkerArgs :=
  if kind = .guid && !m.options.crate.beginsType then
    .error (.type (.wanted Grammar.typeStarts false))
  else .ok m

/-- The arguments of a marker at `span`: they are read, and then the type of a UUID is. -/
def MarkerArgs.parse (kind : MarkerKind) (args : List Tree) (span : Span) :
    Except NotAName (Except Diagnostic MarkerArgs) :=
  match MarkerArgs.read kind args span with
  | .error d => .ok (.error d)
  | .ok m => (m.typed kind).map .ok

end TypedIds
