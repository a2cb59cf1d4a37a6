import TypedIds.Token.Lexer

/-!
# Values of string literals

`TextLiteral.ofText?` takes a string literal apart: its value, with escapes resolved, and the suffix
after the closing quote.  In a raw literal nothing is an escape.

A backslash at the end of a line joins the lines and takes away the white space between them.
-/

set_option autoImplicit false

namespace TypedIds

/-- A string literal. -/
structure TextLiteral where
  value : String
  suffix : String
  deriving Repr, DecidableEq

namespace TextLiteral

open Lexer Text

/-- Where the reader of a value stands. -/
inductive State where
  | plain
  | escape
  | firstHex
  | secondHex (first : Nat)
  | number (value : Nat)
  | continued
  deriving Repr, DecidableEq

/-- A character outside an escape: what it stands for; `none` for the closing quote. -/
def plainStep (c : Char) : Option (List Char × State) :=
  if c == Text.doubleQuote then none
  else if c == '\\' then some ([], .escape)
  else if c == '\r' then some ([], .plain)
  else some ([c], .plain)

/-- What one character after a backslash stands for. -/
def escaped (c : Char) : Char :=
  if c == 'n' then '\n' else if c == 'r' then '\r' else if c == 't' then '\t'
  else if c == '0' then '\x00' else c

/-- One character of a literal; `none` for the closing quote. -/
def State.step : State → Char → Option (List Char × State)
  | .plain, c => plainStep c
  | .escape, c =>
    if c == 'x' then some ([], .firstHex)
    else if c == 'u' then some ([], .number 0)
    else if c == '\n' || c == '\r' then some ([], .continued)
    else some ([escaped c], .plain)
  | .firstHex, c => some ([], .secondHex (hexValue c))
  | .secondHex first, c => some ([Char.ofNat (first * 16 + hexValue c)], .plain)
  | .number n, c =>
    if c == '\x7d' then some ([Char.ofNat n], .plain)
    else if c == '\x7b' || c == '_' then some ([], .number n)
    else some ([], .number (n * 16 + hexValue c))
  | .continued, c => if Text.isBlank c then some ([], .continued) else plainStep c

/-- The value up to the closing quote, and what follows it. -/
def decode : State → List Char → List Char × List Char
  | _, [] => ([], [])
  | s, c :: rest =>
    match s.step c with
    | none => ([], rest)
    | some (out, s) => let (value, after) := decode s rest; (out ++ value, after)

/-- The value of a raw literal up to the closing quote with `marks`, and what follows. -/
def decodeRaw (marks : List Char) : List Char → List Char × List Char
  | [] => ([], [])
  | c :: rest =>
    if c == Text.doubleQuote && marks.isPrefixOf rest then ([], rest.drop marks.length)
    else let (value, after) := decodeRaw marks rest; (c :: value, after)

/-- The parts of a string literal; `none` for other literals. -/
def ofText? (text : String) : Option TextLiteral :=
  let parts := fun (p : List Char × List Char) ↦
    some (TextLiteral.mk (String.ofList p.1) (String.ofList p.2))
  match text.toList with
  | '\x22' :: rest => parts (decode .plain rest)
  | 'r' :: rest =>
    let marks := rest.takeWhile (· == '#')
    match rest.drop marks.length with
    | '\x22' :: body => parts (decodeRaw marks body)
    | _ => none
  | _ => none

end TextLiteral

end TypedIds
