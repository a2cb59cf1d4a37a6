import TypedIds.Text.CharClass

/-!
# Quoted text

How a text is written between quotes: a backslash before quotes, backslashes and the usual control
characters, and a number for what cannot be shown.  There are three ways to quote, which differ in
the quotation mark that is escaped: inside a message, as a character, and as a literal of generated
code.
-/

set_option autoImplicit false

namespace TypedIds.Text

/-- Digits of a number to the base 16, in small letters, without leading zeros. -/
def hexDigits (n : Nat) : List Char := Nat.toDigits 16 n

/-- A character as its number: `\u`, and the digits in braces. -/
def numbered (c : Char) : List Char :=
  ['\\', 'u', '\x7b'] ++ hexDigits c.toNat ++ ['\x7d']

/-- A character as it stands between quotes `mark`. -/
def escape (mark : Char) (c : Char) : List Char :=
  if c == '\x00' then ['\\', '0']
  else if c == '\t' then ['\\', 't']
  else if c == '\r' then ['\\', 'r']
  else if c == '\n' then ['\\', 'n']
  else if c == '\\' || c == mark then ['\\', c]
  else if isJoining c || !isVisible c then numbered c
  else [c]

/-- The double quotation mark. -/
def doubleQuote : Char := '\x22'

/-- The single quotation mark. -/
def singleQuote : Char := '\x27'

/-- A text between double quotes, as messages and debug output show it. -/
def quoteText (s : List Char) : List Char :=
  doubleQuote :: s.flatMap (escape doubleQuote) ++ [doubleQuote]

/-- A character between single quotes. -/
def quoteChar (c : Char) : List Char :=
  singleQuote :: escape singleQuote c ++ [singleQuote]

/-- A text between double quotes, as a literal of generated code.  Before an octal digit the zero
character is written with two digits, so that it is not read as a longer number. -/
def literalBody : List Char → List Char
  | [] => []
  | c :: rest =>
    (if c == '\x00' && (rest.head?.any fun d ↦ '0' ≤ d && d ≤ '7') then ['\\', 'x', '0', '0']
    else escape doubleQuote c) ++ literalBody rest

/-- A string literal whose value is the text. -/
def quoteLiteral (s : String) : String :=
  String.ofList (doubleQuote :: literalBody s.toList ++ [doubleQuote])

end TypedIds.Text
