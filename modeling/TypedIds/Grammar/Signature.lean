import TypedIds.Grammar.Generics

/-!
# Signatures

What a function is called with, what it yields, and the words before it.  A parameter is a receiver,
`self` in one of its forms, or a pattern with a type.  A parameter that is only a generic type has
the pattern `_`.
-/

set_option autoImplicit false

namespace TypedIds

/-- A parameter of a function. -/
inductive Param where
  | receiver (code : Code)
  | typed (attrs pattern : Code) (ty : Ty)
  deriving Inhabited

/-- The code of a parameter. -/
def Param.code : Param → Code
  | .receiver code => code
  | .typed attrs pattern ty => attrs ++ pattern ++ .mark ':' false :: ty.code

/-- Whether a parameter is a receiver. -/
def Param.isReceiver : Param → Bool
  | .receiver _ => true
  | .typed .. => false

/-- A signature. -/
structure Signature where
  isConst : Bool
  isAsync : Bool
  isUnsafe : Bool
  abi : Code
  name : String
  generics : Generics
  params : List Param
  trailing : Bool
  /-- Further arguments of any number, as code. -/
  variadic : Option Code
  output : Option Ty
  /-- The predicates of the `where` clause. -/
  predicates : Option Code
  deriving Inhabited

namespace Signature

/-- Whether there is a receiver. -/
def hasReceiver (s : Signature) : Bool := s.params.any Param.isReceiver

/-- The code of the parameters. -/
def paramsCode (s : Signature) : Code :=
  let written := Code.commas (s.params.map Param.code) s.trailing
  match s.variadic with
  | none => written
  | some v =>
    written ++ (if s.params.isEmpty || s.trailing then [] else [.mark ',' false]) ++ v

/-- The code of a signature. -/
def code (s : Signature) : Code :=
  (if s.isConst then [.word "const"] else []) ++ (if s.isAsync then [.word "async"] else []) ++
    (if s.isUnsafe then [.word "unsafe"] else []) ++ s.abi ++
    .word "fn" :: .word s.name :: s.generics.code ++ Code.within .parens s.paramsCode ++
    (match s.output with | some t => Code.op "->" ++ t.code | none => []) ++
    whereCode s.predicates

end Signature

end TypedIds
