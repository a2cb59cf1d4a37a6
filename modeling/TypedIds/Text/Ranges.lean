/-!
# Sets of code points

A property of characters is stored as a list of closed intervals of code points, and a case mapping
as a list of runs: stretches in which every code point, or every second one, moves by the same
distance.  Membership scans the list, so nothing depends on the order of its entries.
-/

set_option autoImplicit false

namespace TypedIds.Text

/-- A set of code points, as closed intervals. -/
abbrev Ranges := List (Nat × Nat)

/-- Whether some interval holds the code point. -/
def Ranges.holds (t : Ranges) (n : Nat) : Bool :=
  t.any fun r ↦ Nat.ble r.1 n && Nat.ble n r.2

theorem Ranges.holds_iff {t : Ranges} {n : Nat} :
    t.holds n = true ↔ ∃ r ∈ t, r.1 ≤ n ∧ n ≤ r.2 := by
  simp [Ranges.holds]

/-- The code points `first`, `first + step`, … up to `last`, which map to `image`, `image + step`,
and so on. -/
structure CaseRun where
  first : Nat
  last : Nat
  step : Nat
  image : Nat
  deriving Repr, DecidableEq

/-- The image of a code point of the run; `none` for any other code point. -/
def CaseRun.map? (r : CaseRun) (n : Nat) : Option Nat :=
  if Nat.ble r.first n && Nat.ble n r.last && (n - r.first) % r.step == 0 then
    some (r.image + (n - r.first))
  else none

end TypedIds.Text
