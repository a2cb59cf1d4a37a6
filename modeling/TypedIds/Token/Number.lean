import TypedIds.Text.Hex

/-!
# Values of whole number literals

A number literal is a whole number, to the base 10 or to the base that its second character tells,
or it has a point or an exponent.  `WholeLiteral.ofText?` takes the former apart into the value and
the suffix.
-/

set_option autoImplicit false

namespace TypedIds

/-- A literal that is a whole number. -/
structure WholeLiteral where
  value : Nat
  suffix : String
  deriving Repr, DecidableEq

namespace WholeLiteral

open Text

/-- Digits to a base, gaps passed over, added to a value: the new value, and what follows. -/
def digits (base value : Nat) : List Char → Nat × List Char
  | [] => (value, [])
  | c :: rest =>
    if c == '_' then digits base value rest
    else if isHex c && hexValue c < base then digits base (value * base + hexValue c) rest
    else (value, c :: rest)

/-- Whether what follows decimal digits makes the number a fraction or gives it an exponent. -/
def goesOn : List Char → Bool
  | '.' :: _ => true
  | c :: rest =>
    (c == 'e' || c == 'E') &&
      (rest.dropWhile (· == '_')).head?.any fun d ↦ d.isDigit || d == '+' || d == '-'
  | [] => false

/-- The value and the suffix of a whole number; `none` for other literals. -/
def ofText? (text : String) : Option WholeLiteral :=
  let make := fun (p : Nat × List Char) ↦ some (WholeLiteral.mk p.1 (String.ofList p.2))
  match text.toList with
  | '0' :: 'x' :: rest => make (digits 16 0 rest)
  | '0' :: 'o' :: rest => make (digits 8 0 rest)
  | '0' :: 'b' :: rest => make (digits 2 0 rest)
  | c :: rest =>
    if !c.isDigit then none
    else
      let p := digits 10 0 (c :: rest)
      if goesOn p.2 then none else make p
  | [] => none

end WholeLiteral

end TypedIds
