import TypedIds.Text.CharClass
import TypedIds.Text.Hex
import TypedIds.Text.Quoted
import TypedIds.Token.Basic

/-!
# Reading tokens

`Token.read` cuts a text into trees.  It fails at the place of the first token that cannot be read,
of a closing delimiter that matches no opening one, or of the innermost group that is not closed.

The parts are functions from a list of characters to the rest of it, `none` if the list does not
begin with what the function reads.  A literal is tried first, then punctuation, then an identifier.
Doc comments become attributes; other comments and white space are passed over.
-/

set_option autoImplicit false

namespace TypedIds.Lexer

open Text

/-! ## Words -/

/-- What follows an identifier that has no raw mark. -/
def plainWord? : List Char → Option (List Char)
  | c :: rest => if isIdentifierStart c then some (rest.dropWhile isIdentifierContinue) else none
  | [] => none

/-- Words that cannot be written with a raw mark. -/
def neverRaw : List String := ["_", "super", "self", "Self", "crate"]

/-- What follows an identifier, with or without a raw mark. -/
def anyWord? (cs : List Char) : Option (List Char) :=
  match cs with
  | 'r' :: '#' :: rest =>
    match plainWord? rest with
    | some after =>
      if neverRaw.contains (String.ofList (rest.take (rest.length - after.length))) then none
      else some after
    | none => none
  | _ => plainWord? cs

/-- Beginnings of literals that must not be read as identifiers. -/
def literalStarts : List (List Char) :=
  ["r\"", "r#\"", "r##", "b\"", "b\x27", "br\"", "br#", "c\"", "cr\"", "cr#"].map String.toList

/-- What follows an identifier that does not begin like a literal. -/
def word? (cs : List Char) : Option (List Char) :=
  if literalStarts.any (·.isPrefixOf cs) then none else anyWord? cs

/-- What follows the suffix of a literal, which may be missing. -/
def suffix (cs : List Char) : List Char := (plainWord? cs).getD cs

/-! ## Quoted literals -/

/-- What a quoted literal is made of. -/
inductive Flavour where
  | text
  | bytes
  | terminated
  deriving Repr, DecidableEq

/-- Where the reader stands inside a quoted literal. -/
inductive QuoteState where
  | plain
  | afterReturn
  | escape
  | firstHex
  | secondHex (first : Char)
  | brace
  | number (digits : Nat) (value : Nat)
  | continued
  | continuedReturn
  | closed
  deriving Repr, DecidableEq

/-- A character inside a quoted literal, outside an escape. -/
def QuoteState.plainStep (f : Flavour) (c : Char) : Option QuoteState :=
  if c == doubleQuote then some .closed
  else if c == '\\' then some .escape
  else if c == '\r' then some .afterReturn
  else if f == .bytes && c.toNat ≥ 128 then none
  else if f == .terminated && c == '\x00' then none
  else some .plain

/-- One character of a quoted literal. -/
def QuoteState.step (f : Flavour) (s : QuoteState) (c : Char) : Option QuoteState :=
  match s with
  | .plain => plainStep f c
  | .afterReturn => if c == '\n' then some .plain else none
  | .escape =>
    if c == 'x' then some .firstHex
    else if ['n', 'r', 't', '\\', singleQuote, doubleQuote].contains c then some .plain
    else if c == '0' then (if f == .terminated then none else some .plain)
    else if c == 'u' then (if f == .bytes then none else some .brace)
    else if c == '\n' then some .continued
    else if c == '\r' then some .continuedReturn
    else none
  | .firstHex =>
    if f == .text then (if '0' ≤ c && c ≤ '7' then some (.secondHex c) else none)
    else if isHex c then some (.secondHex c) else none
  | .secondHex first =>
    if isHex c && !(f == .terminated && first == '0' && c == '0') then some .plain else none
  | .brace => if c == '\x7b' then some (.number 0 0) else none
  | .number digits value =>
    if isHex c then
      (if digits = 6 then none else some (.number (digits + 1) (value * 16 + hexValue c)))
    else if c == '_' && digits > 0 then some (.number digits value)
    else if c == '\x7d' && digits > 0 then
      (if value.isValidChar && !(f == .terminated && value == 0) then some .plain else none)
    else none
  | .continued =>
    if c == ' ' || c == '\t' || c == '\n' then some .continued
    else if c == '\r' then some .continuedReturn
    else plainStep f c
  | .continuedReturn => if c == '\n' then some .continued else none
  | .closed => none

/-- What follows a quoted literal whose opening quote has been read. -/
def quoted? (f : Flavour) (s : QuoteState) : List Char → Option (List Char)
  | [] => none
  | c :: rest =>
    match s.step f c with
    | none => none
    | some .closed => some (suffix rest)
    | some s => quoted? f s rest

/-- The closing quote of a raw literal with `marks` after it, and what a raw literal may hold. -/
def rawBody? (f : Flavour) (marks : List Char) : List Char → Option (List Char)
  | [] => none
  | c :: rest =>
    if c == doubleQuote && marks.isPrefixOf rest then some (suffix (rest.drop marks.length))
    else if c == '\r' then
      match rest with
      | '\n' :: rest => rawBody? f marks rest
      | _ => none
    else if f == .bytes && c.toNat ≥ 128 then none
    else if f == .terminated && c == '\x00' then none
    else rawBody? f marks rest

/-- What follows a raw literal whose leading letters have been read. -/
def raw? (f : Flavour) (cs : List Char) : Option (List Char) :=
  let marks := cs.takeWhile (· == '#')
  match cs.drop marks.length with
  | c :: rest => if c == doubleQuote && marks.length ≤ 255 then rawBody? f marks rest else none
  | [] => none

/-- What follows a string literal of any flavour. -/
def string? (cs : List Char) : Option (List Char) :=
  match cs with
  | '\x22' :: rest => quoted? .text .plain rest
  | 'r' :: rest => raw? .text rest
  | 'b' :: '\x22' :: rest => quoted? .bytes .plain rest
  | 'b' :: 'r' :: rest => raw? .bytes rest
  | 'c' :: '\x22' :: rest => quoted? .terminated .plain rest
  | 'c' :: 'r' :: rest => raw? .terminated rest
  | _ => none

/-- What follows the escape of a single character, its backslash read. -/
def escape? (f : Flavour) (s : QuoteState) : List Char → Option (List Char)
  | [] => none
  | c :: rest =>
    match s.step f c with
    | some .plain => some rest
    | some .continued | some .continuedReturn | none => none
    | some s => escape? f s rest

/-- What follows the closing quote of a character and its suffix. -/
def closeChar? : List Char → Option (List Char)
  | c :: rest => if c == singleQuote then some (suffix rest) else none
  | [] => none

/-- What follows a character or byte literal. -/
def char? (cs : List Char) : Option (List Char) :=
  match cs with
  | '\x27' :: '\\' :: rest => (escape? .text .escape rest).bind closeChar?
  | '\x27' :: _ :: rest => closeChar? rest
  | 'b' :: '\x27' :: '\\' :: rest => (escape? .bytes .escape rest).bind closeChar?
  | 'b' :: '\x27' :: c :: rest => if c.toNat < 128 then closeChar? rest else none
  | _ => none

/-! ## Numbers -/

/-- A digit or a separator of digits. -/
def isDigitOrGap (c : Char) : Bool := c.isDigit || c == '_'

/-- What follows an exponent whose letter has been read; `none` if it has no digit. -/
def exponent? (sign digits : Bool) : List Char → Option (List Char)
  | [] => if digits then some [] else none
  | c :: rest =>
    if c == '+' || c == '-' then
      if digits then some (c :: rest)
      else if sign then none
      else exponent? true false rest
    else if c.isDigit then exponent? sign true rest
    else if c == '_' then exponent? sign digits rest
    else if digits then some (c :: rest) else none

/-- What follows the digits of a number with a point or an exponent. -/
def floatDigits? (cs : List Char) : Option (List Char) :=
  match cs with
  | d :: _ =>
    if !d.isDigit then none
    else
      match cs.dropWhile isDigitOrGap with
      | '.' :: rest =>
        if rest.head?.any (fun c ↦ c == '.' || isIdentifierStart c) then none
        else
          let after := rest.dropWhile isDigitOrGap
          match after with
          | c :: more =>
            if c == 'e' || c == 'E' then some ((exponent? false false more).getD after)
            else some after
          | [] => some after
      | c :: more => if c == 'e' || c == 'E' then exponent? false false more else none
      | [] => none
  | [] => none

/-- What follows the digits of a whole number to a base; `empty` while no digit was read. -/
def baseDigits? (base : Nat) (empty : Bool) : List Char → Option (List Char)
  | [] => if empty then none else some []
  | c :: rest =>
    if c.isDigit then
      if hexValue c ≥ base then none else baseDigits? base false rest
    else if isHex c && hexValue c < base then baseDigits? base false rest
    else if c == '_' then
      if empty && base == 10 then none else baseDigits? base empty rest
    else if empty then none else some (c :: rest)

/-- What follows the digits of a whole number. -/
def wholeDigits? (cs : List Char) : Option (List Char) :=
  match cs with
  | '0' :: 'x' :: rest => baseDigits? 16 true rest
  | '0' :: 'o' :: rest => baseDigits? 8 true rest
  | '0' :: 'b' :: rest => baseDigits? 2 true rest
  | _ => baseDigits? 10 true cs

/-- A number ends where no identifier goes on. -/
def endNumber? (cs : List Char) : Option (List Char) :=
  let rest := suffix cs
  if rest.head?.any isIdentifierContinue then none else some rest

/-- What follows a literal. -/
def literal? (cs : List Char) : Option (List Char) :=
  (string? cs).orElse fun _ ↦ (char? cs).orElse fun _ ↦
    ((floatDigits? cs).bind endNumber?).orElse fun _ ↦ (wholeDigits? cs).bind endNumber?

/-! ## Punctuation -/

/-- Characters that are tokens by themselves. -/
def marks : List Char := "~!@#$%^&*-=+|;:,<.>/?\x27".toList

/-- Whether a text begins with a punctuation character that starts no comment. -/
def startsMark (cs : List Char) : Bool :=
  match cs with
  | '/' :: '/' :: _ => false
  | '/' :: '*' :: _ => false
  | c :: _ => marks.contains c
  | [] => false

/-- What follows a lifetime whose quote has been read. -/
def lifetime? (cs : List Char) : Option (List Char) :=
  match anyWord? cs with
  | none => none
  | some after =>
    if after.head? == some singleQuote then none
    else if after.head? == some '#' && !"r#".toList.isPrefixOf cs then none
    else some after

/-! ## Comments -/

/-- What follows a block comment, comments inside it being closed on their own. -/
def blockEnd? (depth : Nat) : List Char → Option (List Char)
  | '/' :: '*' :: rest => blockEnd? (depth + 1) rest
  | '*' :: '/' :: rest => if depth ≤ 1 then some rest else blockEnd? (depth - 1) rest
  | _ :: rest => blockEnd? depth rest
  | [] => none

/-- The rest of a line, and what follows it: the line feed, of a line end of two characters. -/
def restOfLine : List Char → List Char × List Char
  | [] => ([], [])
  | '\n' :: rest => ([], '\n' :: rest)
  | '\r' :: '\n' :: rest => ([], '\n' :: rest)
  | c :: rest => let (line, after) := restOfLine rest; (c :: line, after)

/-- Whether every carriage return belongs to a line end. -/
def returnsPaired : List Char → Bool
  | [] => true
  | '\r' :: '\n' :: rest => returnsPaired rest
  | c :: rest => c != '\r' && returnsPaired rest

/-- The part of a list that a reader has consumed. -/
def consumed (before after : List Char) : List Char := before.take (before.length - after.length)

/-- The text of a doc comment, whether it belongs to what it stands inside of, and what follows. -/
def doc? (cs : List Char) : Option (List Char × Bool × List Char) :=
  let block := fun (inner : Bool) ↦
    (blockEnd? 0 cs).map fun rest ↦
      let all := consumed cs rest
      ((all.drop 3).take (all.length - 5), inner, rest)
  let found :=
    match cs with
    | '/' :: '/' :: '!' :: rest => let (l, after) := restOfLine rest; some (l, true, after)
    | '/' :: '*' :: '!' :: _ => block true
    | '/' :: '/' :: '/' :: rest =>
      if rest.head? == some '/' then none
      else let (l, after) := restOfLine rest; some (l, false, after)
    | '/' :: '*' :: '*' :: rest => if rest.head? == some '*' then none else block false
    | _ => none
  found.filter fun d ↦ returnsPaired d.1

/-- What follows one blank or one comment that is no doc comment; `none` if there is neither. -/
def blank? (cs : List Char) : Option (List Char) :=
  let other :=
    match cs with
    | c :: rest =>
      if isBlank c || c == '\u200e' || c == '\u200f' then some rest else none
    | [] => none
  match cs with
  | '/' :: '/' :: '/' :: '/' :: rest => some (restOfLine rest).2
  | '/' :: '/' :: '/' :: _ => none
  | '/' :: '/' :: '!' :: _ => none
  | '/' :: '/' :: rest => some (restOfLine rest).2
  | '/' :: '*' :: '*' :: '/' :: rest => some rest
  | '/' :: '*' :: '*' :: '*' :: _ => blockEnd? 0 cs
  | '/' :: '*' :: '*' :: _ => none
  | '/' :: '*' :: '!' :: _ => none
  | '/' :: '*' :: _ => blockEnd? 0 cs
  | _ => other

/-! ## Trees -/

/-- The attribute that a doc comment stands for. -/
def docTrees (text : List Char) (inner : Bool) (s : Span) : List Tree :=
  [.mark '#' false s] ++ (if inner then [.mark '!' false s] else []) ++
    [.group .brackets
      [.word "doc" s, .mark '=' false s, .literal (quoteLiteral (String.ofList text)) s] s]

/-- What opens a group. -/
def opener? (c : Char) : Option Delimiter :=
  [Delimiter.parens, .brackets, .braces].find? (·.opening == c)

/-- What closes a group. -/
def closer? (c : Char) : Option Delimiter :=
  [Delimiter.parens, .brackets, .braces].find? (·.closing == c)

/-- A group that is still open: its delimiter, its place, and the trees before it, last first. -/
structure OpenGroup where
  delimiter : Delimiter
  place : Place
  before : List Tree
  deriving Repr

/-- The literal that stands for a place where no token could be made. -/
def errorLiteral : List Char := "(/*ERROR*/)".toList

/-- What follows the literal that stands for an error. -/
def afterError? (cs : List Char) : Option (List Char) :=
  if errorLiteral.isPrefixOf cs then some (cs.drop errorLiteral.length) else none

/-- One token that is not a delimiter, and what follows it.  A quote whose word begins like a
literal is a punctuation character, and the literal comes after it. -/
def leaf? (p : Place) (cs : List Char) : Option (Tree × List Char) :=
  let spanTo := fun rest ↦ Span.mk p (p.after (consumed cs rest))
  let textTo := fun rest ↦ String.ofList (consumed cs rest)
  match (literal? cs).or (afterError? cs) with
  | some rest => some (.literal (textTo rest) (spanTo rest), rest)
  | none =>
    match cs with
    | c :: rest =>
      if startsMark cs then
        if c == singleQuote then
          (lifetime? rest).map fun after ↦
            if literalStarts.any (·.isPrefixOf rest) then (.mark c true (spanTo rest), rest)
            else
              let name := String.ofList (consumed rest after)
              (.lifetime name (spanTo rest) (spanTo after), after)
        else some (.mark c (startsMark rest) (spanTo rest), rest)
      else (word? cs).map fun after ↦ (.word (textTo after) (spanTo after), after)
    | [] => none

/-- What opens a group at the beginning of a text. -/
def opens? (cs : List Char) : Option Delimiter :=
  if errorLiteral.isPrefixOf cs then none else cs.head?.bind opener?

/-- Reads all trees.  `done` holds the trees of the innermost open group, last first; every round
passes over a blank or a comment or reads a token, so as many rounds as characters are enough. -/
def readFrom : (rounds : Nat) → Place → List OpenGroup → (done : List Tree) → List Char →
    Except Place (List Tree)
  | 0, p, _, _, _ => .error p
  | n + 1, p, stack, done, cs =>
    match blank? cs with
    | some rest => readFrom n (p.after (consumed cs rest)) stack done rest
    | none =>
      match doc? cs with
      | some (text, inner, rest) =>
        let stop := p.after (consumed cs rest)
        readFrom n stop stack ((docTrees text inner ⟨p, stop⟩).reverse ++ done) rest
      | none =>
        match cs with
        | [] =>
          match stack with
          | [] => .ok done.reverse
          | g :: _ => .error g.place
        | c :: rest =>
          match opens? cs, closer? c with
          | some d, _ => readFrom n (p.next c) (⟨d, p, done⟩ :: stack) [] rest
          | none, some d =>
            match stack with
            | g :: outer =>
              if g.delimiter = d then
                let t := Tree.group d done.reverse ⟨g.place, p.next c⟩
                readFrom n (p.next c) outer (t :: g.before) rest
              else .error p
            | [] => .error p
          | none, none =>
            match leaf? p cs with
            | some (t, rest) => readFrom n t.span.stop stack (t :: done) rest
            | none => .error p

/-- The character that may mark the byte order at the start of a text. -/
def orderMark : Char := '\ufeff'

end Lexer

open Lexer in
/-- The trees of a text, or the place of the first token that cannot be read. -/
def Tree.read (text : String) : Except Place (List Tree) :=
  let cs := text.toList
  let (p, cs) :=
    match cs with
    | c :: rest => if c == orderMark then (Place.origin.next c, rest) else (Place.origin, cs)
    | [] => (Place.origin, [])
  readFrom (cs.length + 1) p [] [] cs

end TypedIds
