import TypedIds.Token.Basic

/-!
# Writing code

Code is written in two forms.  The plain form puts one blank between any two tokens.  The form used
inside messages keeps operators together and puts no blank on the inner side of parentheses and
brackets: `fn (u8) -> u8`.
-/

set_option autoImplicit false

namespace TypedIds

/-- The text of a token; the quote of a lifetime belongs to it. -/
def Token.text : Token → String
  | .word t | .literal t => t
  | .lifetime n => "\x27" ++ n
  | .mark c _ => String.singleton c
  | .opening d => String.singleton d.opening
  | .closing d => String.singleton d.closing

/-- Whether a token is a quote that belongs to the next one. -/
def Token.isQuote : Token → Bool
  | .mark c joined => c == '\x27' && joined
  | _ => false

/-- The plain form: one blank between tokens, and none after a quote. -/
def Code.plain : Code → String
  | [] => ""
  | [t] => t.text
  | t :: u :: rest => t.text ++ (if t.isQuote then "" else " ") ++ Code.plain (u :: rest)

/-- The message form of code, given whether the next token touches what was written before it. -/
def Code.showAfter : (touching : Bool) → Code → String
  | _, [] => ""
  | touching, t :: rest =>
    match t with
    | .closing .braces => (if touching then "" else " ") ++ t.text ++ Code.showAfter false rest
    | .closing _ => t.text ++ Code.showAfter false rest
    | .opening .braces =>
      (if touching then "" else " ") ++ t.text ++ " " ++ Code.showAfter true rest
    | .opening _ => (if touching then "" else " ") ++ t.text ++ Code.showAfter true rest
    | .mark _ joined => (if touching then "" else " ") ++ t.text ++ Code.showAfter joined rest
    | _ => (if touching then "" else " ") ++ t.text ++ Code.showAfter false rest

/-- The message form. -/
def Code.shown (c : Code) : String := Code.showAfter true c

end TypedIds
