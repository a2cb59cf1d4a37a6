import TypedIds.Token.Lexer

/-!
# Names

A name is a word that is no keyword.  A raw word, such as `r#type`, is a name whatever follows its
mark.
-/

set_option autoImplicit false

namespace TypedIds

/-- Words that are no names. -/
def keywords : List String :=
  ["_", "abstract", "as", "async", "await", "become", "box", "break", "const", "continue", "crate",
   "do", "dyn", "else", "enum", "extern", "false", "final", "fn", "for", "if", "impl", "in", "let",
   "loop", "macro", "match", "mod", "move", "mut", "override", "priv", "pub", "ref", "return",
   "Self", "self", "static", "struct", "super", "trait", "true", "try", "type", "typeof", "unsafe",
   "unsized", "use", "virtual", "where", "while", "yield"]

/-- Whether a word is a name. -/
def isName (word : String) : Bool := !keywords.contains word

/-- Whether a word has the raw mark. -/
def isRaw (word : String) : Bool := "r#".toList.isPrefixOf word.toList

/-- Whether a text is a single name. -/
def isNameText (text : String) : Bool :=
  match Tree.read text with
  | .ok [.word w _] => isName w
  | _ => false

end TypedIds
