import TypedIds.Uuid

/-!
# Reading UUIDs

Four forms are read: 32 digits, the same with hyphens between the groups, that in braces, and that
after `urn:uuid:`.  The form is chosen by the length of the text in bytes.

When a text is none of these, `ReadError` says why.  A text of the length of a hyphenated form is
blamed for its groups; any other text may still turn out to be a hyphenated form of a wrong length,
with or without braces, or plain digits of a wrong count.
-/

set_option autoImplicit false

namespace TypedIds.Uuid

open Text

/-- Why a text is no UUID. -/
inductive ReadError where
  /-- The text has this many bytes. -/
  | length (found : Nat)
  /-- The first character that is neither a digit nor a hyphen, and the number of bytes before. -/
  | character (found : Char) (index : Nat)
  /-- There are this many groups. -/
  | groupCount (found : Nat)
  /-- The first group of a wrong length. -/
  | groupLength (group expected found : Nat)
  deriving Repr, DecidableEq

/-- The text of an error. -/
def ReadError.message : ReadError → String
  | .length n => "invalid length: found " ++ toString n
  | .character c i => "invalid character: found `" ++ c.toString ++ "` at " ++ toString i
  | .groupCount n => "invalid group count: expected 5, found " ++ toString n
  | .groupLength g e n =>
    "invalid group length in group " ++ toString g ++ ": expected " ++ toString e ++ ", found " ++
      toString n

/-- The length of a text in bytes. -/
def byteLength : List Char → Nat
  | [] => 0
  | c :: rest => c.utf8Size + byteLength rest

/-- The digits of a text that is made of groups of these lengths. -/
def groupedDigits? : List Nat → List Char → Option (List Char)
  | [], s => if s.isEmpty then some [] else none
  | [n], s => if s.length == n && s.all isHex then some s else none
  | n :: ns, s =>
    match s.drop n with
    | '-' :: rest =>
      if (s.take n).all isHex then (groupedDigits? ns rest).map (s.take n ++ ·) else none
    | _ => none

/-- What comes before the digits of a resource name. -/
def resourceName : List Char := "urn:uuid:".toList

/-- What is inside the braces of a text, if it is in braces. -/
def inBraces? : List Char → Option (List Char)
  | '{' :: rest => if rest.getLast? == some '}' then some rest.dropLast else none
  | _ => none

/-- What comes after `urn:uuid:` in a text that begins so, in capital or small letters. -/
def inResourceName? (s : List Char) : Option (List Char) :=
  if (s.take resourceName.length).map Char.toLower == resourceName then
    some (s.drop resourceName.length)
  else none

/-- The text whose groups decide whether `s` is a UUID, if `s` is as long as a hyphenated form. -/
def hyphenated? (s : List Char) : Option (List Char) :=
  match byteLength s with
  | 36 => some s
  | 38 => inBraces? s
  | 45 => inResourceName? s
  | _ => none

/-- The first group that does not end where it should, of those that begin at `start` and have the
given lengths and ends, or else the last group, which ends with the text. -/
def wrongGroup (total : Nat) : (group start : Nat) → (lengths ends : List Nat) → ReadError
  | group, start, n :: ns, e :: es =>
    if e == start + n then wrongGroup total (group + 1) (e + 1) ns es
    else .groupLength group n (e - start)
  | group, start, n :: _, [] => .groupLength group n (total - start)
  | group, start, [], _ => .groupLength group 0 (total - start)

/-- The places of the hyphens in a text that begins at the place `n`. -/
def hyphensFrom : (n : Nat) → List Char → List Nat
  | _, [] => []
  | n, c :: rest => if c == '-' then n :: hyphensFrom (n + 1) rest else hyphensFrom (n + 1) rest

/-- What is wrong with a text of digits and hyphens, of `total` bytes with what is around it. -/
def wrongGroups (total : Nat) (s : List Char) : ReadError :=
  let hyphens := hyphensFrom 0 s
  if hyphens.length == 4 then wrongGroup total 0 0 groupLengths hyphens
  else .groupCount (hyphens.length + 1)

/-- A text whose first character that is no digit and no hyphen is blamed, with `before` bytes
before the text; `none` if there is no such character. -/
def wrongCharacter? (before : Nat) (s : List Char) : Option ReadError :=
  let good := fun c ↦ isHex c || c == '-'
  (s.dropWhile good).head?.map fun c ↦ .character c (before + (s.takeWhile good).length)

/-- What is wrong with a text of the length of a hyphenated form, whose braces or `urn:uuid:` are
already taken away. -/
def wrongHyphenated (s : List Char) : ReadError :=
  (wrongCharacter? 0 s).getD (wrongGroups (byteLength s) s)

/-- What is wrong with a text of any other length. -/
def wrongText (s : List Char) : ReadError :=
  let n := byteLength s
  if n == 0 || Nat.blt 45 n then .length n
  else
    match inBraces? s, inResourceName? s with
    | some inner, _ => (wrongCharacter? 1 inner).getD (wrongGroups n inner)
    | none, some inner => (wrongCharacter? resourceName.length inner).getD (wrongGroups n inner)
    | none, none =>
      (wrongCharacter? 0 s).getD (if s.contains '-' then wrongGroups n s else .length n)

/-- The UUID that a text writes. -/
def read (s : List Char) : Except ReadError Uuid :=
  match hyphenated? s with
  | some inner =>
    match groupedDigits? groupLengths inner with
    | some digits => .ok (ofDigits digits)
    | none => .error (wrongHyphenated inner)
  | none => if s.length == 32 && s.all isHex then .ok (ofDigits s) else .error (wrongText s)

end TypedIds.Uuid
