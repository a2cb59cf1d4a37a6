/-!
# Hexadecimal digits

A number is written with a fixed count of digits to the base 16, the most significant one first.
Reading takes letters of both cases, writing chooses one.
-/

set_option autoImplicit false

namespace TypedIds.Text

/-- A digit to the base 16, in either case. -/
def isHex (c : Char) : Bool := c.isDigit || ('a' ≤ c && c ≤ 'f') || ('A' ≤ c && c ≤ 'F')

/-- The value of a digit to the base 16. -/
def hexValue (c : Char) : Nat :=
  if c.isDigit then c.toNat - 48
  else if 'a' ≤ c then c.toNat - 87
  else c.toNat - 55

/-- The case of the letters among the digits. -/
inductive LetterCase where
  | small
  | capital
  deriving Repr, DecidableEq, Inhabited

/-- The digit with the value `n < 16`. -/
def hexDigit (letters : LetterCase) (n : Nat) : Char :=
  if n < 10 then Char.ofNat (48 + n)
  else
    match letters with
    | .small => Char.ofNat (87 + n)
    | .capital => Char.ofNat (55 + n)

/-- The last `count` digits of a number. -/
def fixedHex (letters : LetterCase) : (count : Nat) → Nat → List Char
  | 0, _ => []
  | count + 1, n => fixedHex letters count (n / 16) ++ [hexDigit letters (n % 16)]

/-- The number that a list of digits writes. -/
def hexNumber (digits : List Char) : Nat := digits.foldl (fun n c ↦ n * 16 + hexValue c) 0

/-- A digit is read as the value that it was written for. -/
theorem hexValue_hexDigit {letters : LetterCase} {n : Nat} (h : n < 16) :
    hexValue (hexDigit letters n) = n := by
  have all : ∀ m < 16, hexValue (hexDigit .small m) = m ∧ hexValue (hexDigit .capital m) = m := by
    decide
  cases letters
  · exact (all n h).1
  · exact (all n h).2

theorem isHex_hexDigit {letters : LetterCase} {n : Nat} (h : n < 16) :
    isHex (hexDigit letters n) = true := by
  have all : ∀ m < 16, isHex (hexDigit .small m) = true ∧ isHex (hexDigit .capital m) = true := by
    decide
  cases letters
  · exact (all n h).1
  · exact (all n h).2

/-- Reading the last `count` digits of a number gives the number back, if it has no more. -/
theorem hexNumber_fixedHex {letters : LetterCase} {count n : Nat} (h : n < Nat.pow 16 count) :
    hexNumber (fixedHex letters count n) = n := by
  induction count generalizing n with
  | zero => exact (Nat.lt_one_iff.mp h).symm
  | succ count ih =>
    have hn : n / 16 < Nat.pow 16 count := Nat.div_lt_of_lt_mul (by rwa [Nat.mul_comm])
    have := ih hn
    simp only [hexNumber] at this
    simp only [fixedHex, hexNumber, List.foldl_append, List.foldl_cons, List.foldl_nil, this,
      hexValue_hexDigit (Nat.mod_lt n (by decide : 0 < 16))]
    omega

@[simp]
theorem length_fixedHex (letters : LetterCase) (count n : Nat) :
    (fixedHex letters count n).length = count := by
  induction count generalizing n with
  | zero => rfl
  | succ count ih => simp [fixedHex, ih]

end TypedIds.Text
