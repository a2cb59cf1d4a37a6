import TypedIds.Grammar.Type.Comparison
import TypedIds.Hook.Return
import TypedIds.Marker.Args
import TypedIds.Module.Index

/-!
# The hook of an identifier

An identifier may check or change its value by a function `check_value` of its own.  Such a function
is recognised by its form alone: it is private, has no receiver and no generic parameters, and takes
one parameter of the shape of the value, which is `Uuid` or `String` for a scalar identifier and the
tuple of the components for a combined one.  It yields the value, nothing, or a `Result` of either.
A function of any other form is no hook, and no error either.

`Hook.detect` looks for the first such function in source order; an option may name the hook
instead.
-/

set_option autoImplicit false

namespace TypedIds

/-- The function that checks the values of an identifier. -/
structure Hook where
  name : String
  returns : HookReturn
  deriving Repr, DecidableEq, Inhabited

namespace Hook

/-- The name of a function that may be a hook. -/
def functionName : String := "check_value"

/-- Whether a type has the shape of the value of an identifier. -/
def hasShape (kind : MarkerKind) (components : List Component) (t : Ty) : Bool :=
  match kind, t.strip with
  | .guid, t => t.endsIn "Uuid"
  | .string, t => t.endsIn "String"
  | .combined, .tuple elems _ =>
    elems.length == components.length &&
      (elems.zip components).all fun (e, c) ↦ e.same c.ty
  | .combined, _ => false

/-- What a hook yields, by the type that it is declared with. -/
def returnOf? (kind : MarkerKind) (components : List Component) (t : Ty) : Option HookReturn :=
  let t := t.strip
  if t.isUnit then some .unit
  else
    match t.argumentOf? "Result" with
    | some ok =>
      if ok.strip.isUnit then some .resultUnit
      else if hasShape kind components ok then some .resultValue
      else none
    | none => if hasShape kind components t then some .value else none

/-- The hook that a function is, if it is one. -/
def classify (kind : MarkerKind) (components : List Component) (f : Method) : Option Hook :=
  let s := f.signature
  if !f.visibility.isEmpty || s.hasReceiver || !s.generics.isEmpty || s.isAsync ||
      s.variadic.isSome then none
  else
    match s.params with
    | [.typed _ _ t] =>
      if hasShape kind components t then
        let returns : Option HookReturn :=
          match s.output with
          | none => some .unit
          | some t => returnOf? kind components t
        returns.map (⟨s.name, ·⟩)
      else none
    | _ => none

/-- The hook of the type `name` in the module at `path`.  A function that an option names is the
hook, and taken to yield the value or an error. -/
def detect (x : Index) (path : List String) (name : String) (kind : MarkerKind)
    (components : List Component) (explicit : Option String) : Option Hook :=
  match explicit with
  | some f => some ⟨f, .resultValue⟩
  | none =>
    (x.membersOf? path name).bind fun members ↦
      (members.methods.filter (·.signature.name == functionName)).findSome?
        (classify kind components)

end Hook

end TypedIds
