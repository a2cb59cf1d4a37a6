import TypedIds.Hook.Return
import TypedIds.Text.Quoted
import TypedIds.Uuid.Reader

/-!
# Errors of identifiers

An identifier fails to come about for one of two reasons: the hook of its type rejects the value, or
a text does not write a value at all.  Both keep the name of the type and what caused them.
-/

set_option autoImplicit false

namespace TypedIds

/-- What caused an error. -/
inductive Cause where
  /-- An error of the hook's own kind. -/
  | hook (message : String)
  /-- A bare message. -/
  | text (message : String)
  /-- A text is no UUID. -/
  | uuid (e : Uuid.ReadError)
  deriving Repr, DecidableEq

/-- The text of a cause. -/
def Cause.message : Cause → String
  | .hook m => "hook says " ++ m
  | .text m => m
  | .uuid e => e.message

/-- Why there is no identifier. -/
inductive IdentifierError where
  /-- The hook rejects the value. -/
  | rejected (typeName : String) (source : Cause)
  /-- The text `input` writes no value. -/
  | unreadable (typeName input : String) (source : Cause)
  deriving Repr, DecidableEq

namespace IdentifierError

/-- The name of the type of the identifier. -/
def typeName : IdentifierError → String
  | .rejected t _ | .unreadable t _ _ => t

/-- What caused the error. -/
def source : IdentifierError → Cause
  | .rejected _ c | .unreadable _ _ c => c

/-- The text of an error. -/
def message : IdentifierError → String
  | .rejected t c => t ++ " rejected value: " ++ c.message
  | .unreadable t input c =>
    "cannot parse " ++ t ++ " from " ++ String.ofList (Text.quoteText input.toList) ++ ": " ++
      c.message

end IdentifierError

/-! ## Hooks as functions -/

/-- What a hook computes from a value of type `α`. -/
@[reducible]
def HookReturn.Outcome (α : Type) : HookReturn → Type
  | .value => α
  | .unit => Unit
  | .resultValue => Except Cause α
  | .resultUnit => Except Cause Unit

/-- A hook on values of type `α`. -/
structure HookFunction (α : Type) where
  returns : HookReturn
  run : α → returns.Outcome α

namespace HookFunction

/-- The value to wrap when the value `v` gave this outcome: that of the outcome, or else `v`. -/
def settle {α : Type} (v : α) : (r : HookReturn) → r.Outcome α → Except Cause α
  | .value, w => .ok w
  | .unit, _ => .ok v
  | .resultValue, r => r
  | .resultUnit, .ok _ => .ok v
  | .resultUnit, .error c => .error c

/-- The value to wrap in place of `v`, or why there is none. -/
def apply {α : Type} (h : HookFunction α) (v : α) : Except Cause α := settle v h.returns (h.run v)

end HookFunction

end TypedIds
