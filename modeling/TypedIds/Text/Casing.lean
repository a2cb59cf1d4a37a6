import TypedIds.Text.CharClass

/-!
# Upper and lower case of a text

A character may have several characters as its upper or lower case, so a case mapping of characters
yields a list, and the mapping of a text concatenates.  One letter looks at its neighbours: a
capital sigma that ends a word becomes a final small sigma.
-/

set_option autoImplicit false

namespace TypedIds.Text

/-- The images of one code point under a table of special cases and one of runs. -/
def caseImages (special : List (Nat × List Nat)) (runs : List CaseRun) (n : Nat) : List Nat :=
  match special.find? (fun e ↦ Nat.beq e.1 n) with
  | some e => e.2
  | none => [(runs.findSome? (·.map? n)).getD n]

/-- The upper case of a character. -/
def upper (c : Char) : List Char :=
  if c.toNat < 128 then [c.toUpper]
  else (caseImages Table.upperSpecial Table.upperRuns c.toNat).map Char.ofNat

/-- The lower case of a character, whatever stands beside it. -/
def lower (c : Char) : List Char :=
  if c.toNat < 128 then [c.toLower]
  else (caseImages Table.lowerSpecial Table.lowerRuns c.toNat).map Char.ofNat

/-- The upper case of a text. -/
def uppercase (s : List Char) : List Char := s.flatMap upper

/-- Whether the first character that is not passed over is a cased one. -/
def startsCased (s : List Char) : Bool :=
  match s.dropWhile isCaseIgnorable with
  | c :: _ => isCased c
  | [] => false

/-- The lower case of a text that stands after the characters `before`, nearest first.  A capital
sigma is final when a cased character comes before it and none after it. -/
def lowercaseAfter (before : List Char) : List Char → List Char
  | [] => []
  | c :: rest =>
    (if c == 'Σ' then
      [if startsCased before && !startsCased rest then 'ς' else 'σ']
    else lower c) ++ lowercaseAfter (c :: before) rest

/-- The lower case of a text. -/
def lowercase (s : List Char) : List Char := lowercaseAfter [] s

/-- A text without the white space at both ends. -/
def trim (s : List Char) : List Char :=
  ((s.dropWhile isBlank).reverse.dropWhile isBlank).reverse

end TypedIds.Text
