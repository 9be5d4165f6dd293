import RecordMarking.Decimal.Shortest

/-!
# Binary numbers beside integers

A binary64 number is compared with an integer as the fraction that it is, so that neither of
them is rounded, however large the integer. An undefined number stands in no order to any
integer.
-/

namespace RecordMarking

/-- The numerator of a signed number over the power of two `scale`. -/
def BinaryPoint.numerator (negative : Bool) (point : BinaryPoint) : Int :=
  let magnitude := Int.ofNat (point.significand * Nat.pow 2 point.exponent.toNat)
  if negative then -magnitude else magnitude

/-- The denominator of a number: one unless its exponent is negative. -/
def BinaryPoint.scale (point : BinaryPoint) : Int :=
  Int.ofNat (Nat.pow 2 (-point.exponent).toNat)

namespace Binary64

/-- Whether a number is at most as large as an integer. -/
def atMost (number : Binary64) (integer : Int) : Bool :=
  match number with
  | .zero _ => decide (0 ≤ integer)
  | .finite negative magnitude =>
    decide (magnitude.numerator negative ≤ integer * magnitude.scale)
  | .infinite negative => negative
  | .undefined => false

/-- Whether a number is at least as large as an integer. -/
def atLeast (number : Binary64) (integer : Int) : Bool :=
  match number with
  | .zero _ => decide (integer ≤ 0)
  | .finite negative magnitude =>
    decide (integer * magnitude.scale ≤ magnitude.numerator negative)
  | .infinite negative => !negative
  | .undefined => false

/-- A number that is at most as large as an integer is so beside all larger ones. -/
theorem atMost_mono {number : Binary64} {low high : Int} (below : number.atMost low = true)
    (le : low ≤ high) : number.atMost high = true := by
  cases number with
  | zero negative =>
    have nonnegative : 0 ≤ low := of_decide_eq_true below
    exact decide_eq_true (Int.le_trans nonnegative le)
  | finite negative magnitude =>
    have bounded : magnitude.numerator negative ≤ low * magnitude.scale := of_decide_eq_true below
    have positive : 0 ≤ magnitude.scale := Int.natCast_nonneg _
    exact decide_eq_true (Int.le_trans bounded (Int.mul_le_mul_of_nonneg_right le positive))
  | infinite negative => exact below
  | undefined => exact below

end Binary64

end RecordMarking
