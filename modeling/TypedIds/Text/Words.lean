import TypedIds.Text.Casing

/-!
# Words of a name

A name such as `TenantId`, `tenant-id` or `TENANT_ID` is a list of words.  Two things end a word: a
character that is neither letter nor number, and a change of case.  Inside a stretch of letters and
numbers a word ends between a small and a capital letter, and before the last capital of a run of
capitals that a small letter follows.  A character without case, such as a digit, goes on with the
case before it.  The snake case of a name joins its words, in lower case, with `_`.
-/

set_option autoImplicit false

namespace TypedIds.Text

/-- The case of the last cased character of the word so far. -/
inductive WordCase where
  | none
  | lower
  | upper
  deriving Repr, DecidableEq

/-- The case after one more character of the same word. -/
def WordCase.next (k : WordCase) (c : Char) : WordCase :=
  if isLowercase c then .lower else if isUppercase c then .upper else k

/-- The words of a stretch of letters and numbers, after the characters `word` (last first) of a
word that is not ended yet and whose case is `k`. -/
def splitAtCase (k : WordCase) (word : List Char) : List Char → List (List Char)
  | [] => []
  | [c] => [(c :: word).reverse]
  | c :: d :: rest =>
    if k.next c = .lower ∧ isUppercase d then
      (c :: word).reverse :: splitAtCase .none [] (d :: rest)
    else if k = .upper ∧ isUppercase c ∧ isLowercase d then
      word.reverse :: splitAtCase .none [c] (d :: rest)
    else
      splitAtCase (k.next c) (c :: word) (d :: rest)

/-- The stretches of letters and numbers of a text, empty ones between neighbouring separators
included. -/
def stretches : List Char → List (List Char)
  | [] => [[]]
  | c :: rest =>
    match stretches rest with
    | [] => [[]]
    | s :: ss => if isAlphanumeric c then (c :: s) :: ss else [] :: s :: ss

/-- The words of a name. -/
def words (name : List Char) : List (List Char) :=
  (stretches name).flatMap (splitAtCase .none [])

/-- A word in lower case, character by character; a capital sigma at its end becomes a final one. -/
def lowerWord : List Char → List Char
  | [] => []
  | [c] => if c == 'Σ' then ['ς'] else lower c
  | c :: rest => lower c ++ lowerWord rest

/-- The words of a name in lower case, joined with `_`. -/
def snakeCase (name : List Char) : List Char :=
  ['_'].intercalate ((words name).map lowerWord)

end TypedIds.Text
