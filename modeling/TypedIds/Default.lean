import TypedIds.Marker.Args
import TypedIds.Module.Index

/-!
# The unspecified value of a component

A combined identifier has an unspecified value, made of one value for each component.  The rule for
a component is inferred from its type; the first that applies counts.

1. The type is an identifier of the module tree: its own unspecified value.
2. The type is known to have no equality, or contains such a type: that is an error.
3. The type is an `Option`: nothing.
4. A type of that name declares a constant `EMPTY` or a function `empty()`, or is one of the two
   built-in types of scalar identifiers: the empty value.
5. Otherwise the default of the type.
-/

set_option autoImplicit false

namespace TypedIds

/-- How the empty value of a type is named. -/
inductive EmptyMember where
  /-- The constant `EMPTY`. -/
  | constant
  /-- The function `empty`. -/
  | function
  /-- The function `nil` of UUIDs. -/
  | nil
  /-- The function `new` of texts. -/
  | new
  deriving Repr, DecidableEq, Inhabited

/-- The unspecified value of a component. -/
inductive ComponentDefault where
  /-- The unspecified value of another identifier. -/
  | identifier (ty : Ty)
  /-- No value of an `Option`. -/
  | null
  /-- The empty value of a type. -/
  | empty (member : EmptyMember) (ty : Ty)
  /-- The default of a type. -/
  | default (ty : Ty)
  deriving Inhabited

/-! ## Types without equality -/

/-- Whether a form of types has no equality. -/
def TypeForm.lacksEquality : TypeForm → Bool
  | .functionPointer | .rawPointer | .implTrait => true
  | .never | .inferred | .macroCall | .verbatim => false

/-- The types of floating point numbers. -/
def floatTypes : List String := ["f32", "f64"]

mutual

/-- The first part of a type that is known to have no equality. -/
def Ty.lacksEquality? : Ty → Option Ty
  | .path rooted front (.mk name args) =>
    match args with
    | .none =>
      if floatTypes.contains name then some (.path rooted front (.mk name .none)) else none
    | .angle _ args _ => Arg.lacksEquality? args
  | .qualified _ _ => none
  | .tuple elems _ => Ty.lacksEqualityIn? elems
  | .reference _ _ target => target.lacksEquality?
  | .array elem _ => elem.lacksEquality?
  | .slice elem => elem.lacksEquality?
  | .paren inner => inner.lacksEquality?
  | .object isDyn bounds trailing => some (.object isDyn bounds trailing)
  | .other form code => if form.lacksEquality then some (.other form code) else none

/-- The first part of some types that is known to have no equality. -/
def Ty.lacksEqualityIn? : List Ty → Option Ty
  | [] => none
  | t :: ts => t.lacksEquality?.or (Ty.lacksEqualityIn? ts)

/-- The first part of some arguments that is known to have no equality. -/
def Arg.lacksEquality? : List Arg → Option Ty
  | [] => none
  | .type t :: as => t.lacksEquality?.or (Arg.lacksEquality? as)
  | .lifetime _ :: as | .other _ :: as => Arg.lacksEquality? as

end

/-! ## The rules -/

namespace ComponentDefault

/-- How the built-in types of scalar identifiers name their empty value. -/
def builtIn? (name : String) : Option EmptyMember :=
  if name == "Uuid" then some .nil else if name == "String" then some .new else none

/-- How some members name the empty value of their type. -/
def ofMembers? (m : Members) : Option EmptyMember :=
  if m.hasConstant "EMPTY" then some .constant
  else if m.hasNullary "empty" then some .function
  else none

/-- How the empty value of the types of this name is named. -/
def emptyMember? (x : Index) (name : String) : Option EmptyMember :=
  ((x.membersNamed name).findSome? ofMembers?).or (builtIn? name)

/-- Whether a type is an identifier of the module tree. -/
def isIdentifier (x : Index) (t : Ty) : Bool := t.lastName?.any x.isIdentifier

/-- The unspecified value of a component. -/
def infer (x : Index) (c : Component) : Except Diagnostic ComponentDefault :=
  if isIdentifier x c.ty then .ok (.identifier c.ty)
  else
    match c.ty.lacksEquality? with
    | some part => .error ⟨.noEquality c.name part.text, c.tySpan⟩
    | none =>
      if (c.ty.argumentOf? "Option").isSome then .ok .null
      else
        match c.ty.lastName?.bind (emptyMember? x) with
        | some member => .ok (.empty member c.ty)
        | none => .ok (.default c.ty)

/-- The unspecified values of some components. -/
def inferAll (x : Index) (cs : List Component) : Except Diagnostic (List ComponentDefault) :=
  cs.mapM (infer x)

end ComponentDefault

/-- The type that is written out for a component: that inside an `Option`, which is blank if it
holds nothing. -/
def Ty.displayed (t : Ty) : Ty := (t.argumentOf? "Option").getD t

end TypedIds
