import RecordMarking.Decimal.Order
import RecordMarking.Fault

/-!
# Quantities

Lengths, sizes and limits are integers nearly everywhere, but where a caller assigns one it may
be any value. A truth value then counts as one or zero, a floating point number takes part in
comparisons as far as it is defined, and any other value is a fault of the operation that needs
a number. For integers each operation is what it says, which the lemmas beside it state.
-/

namespace RecordMarking

/-- The number that a value is. -/
inductive Quantity where
  | whole (number : Int)
  | real (number : Binary64)
deriving DecidableEq, Repr

namespace Quantity

/-- Whether a quantity is at most as large as an integer. -/
def atMost (quantity : Quantity) (integer : Int) : Bool :=
  match quantity with
  | .whole number => decide (number ≤ integer)
  | .real number => number.atMost integer

/-- Whether a quantity is at least as large as an integer. -/
def atLeast (quantity : Quantity) (integer : Int) : Bool :=
  match quantity with
  | .whole number => decide (integer ≤ number)
  | .real number => number.atLeast integer

/-- Whether a quantity lies between two integers or is equal to one of them. -/
def within (quantity : Quantity) (low high : Int) : Bool :=
  quantity.atLeast low && quantity.atMost high

@[simp] theorem within_whole (number low high : Int) :
    (whole number).within low high = decide (low ≤ number ∧ number ≤ high) := by
  simp [within, atLeast, atMost]

/-- A quantity that is at most as large as an integer is so beside all larger ones. -/
theorem atMost_mono {quantity : Quantity} {low high : Int} (below : quantity.atMost low = true)
    (le : low ≤ high) : quantity.atMost high = true := by
  cases quantity with
  | whole number => exact decide_eq_true (Int.le_trans (of_decide_eq_true below) le)
  | real number => exact Binary64.atMost_mono below le

end Quantity

namespace Value

/-- The quantity that a value is, if it is one. -/
def quantity? : Value → Option Quantity
  | .truth value => some (.whole (if value then 1 else 0))
  | .integer value => some (.whole value)
  | .real bits => some (.real (.ofBits bits))
  | _ => none

@[simp] theorem quantity?_integer (value : Int) :
    quantity? (.integer value) = some (.whole value) := rfl

/-- The quantity that a value is, for comparing an integer with it. -/
def comparedBy (relation : Relation) (value : Value) : Except Fault Quantity :=
  match value.quantity? with
  | some quantity => .ok quantity
  | none => .error (.incomparable relation value.typeName)

@[simp] theorem comparedBy_integer (relation : Relation) (value : Int) :
    comparedBy relation (.integer value) = .ok (.whole value) := rfl

/-- The integer that a value is, where no other number will do. -/
def whole (value : Value) : Except Fault Int :=
  match value.quantity? with
  | some (.whole number) => .ok number
  | _ => .error (.notInteger value.typeName)

@[simp] theorem whole_integer (value : Int) : whole (.integer value) = .ok value := rfl

/-- A value that stands for an integer is the quantity of that integer. -/
theorem quantity?_of_whole {value : Value} {number : Int} (integral : value.whole = .ok number) :
    value.quantity? = some (.whole number) := by
  rw [whole] at integral
  split at integral
  · rename_i found quantity
    rw [quantity, Except.ok.inj integral]
  · cases integral

/-- A value that stands for an integer compares as that integer. -/
theorem comparedBy_of_whole {value : Value} {number : Int} (integral : value.whole = .ok number)
    (relation : Relation) : value.comparedBy relation = .ok (.whole number) := by
  rw [comparedBy, quantity?_of_whole integral]

/-- Whether a value is the number zero. -/
def isZero (value : Value) : Bool :=
  match value.quantity? with
  | some quantity => quantity.within 0 0
  | none => false

@[simp] theorem isZero_integer (value : Int) : isZero (.integer value) = decide (value = 0) := by
  simp only [isZero, quantity?_integer, Quantity.within_whole, decide_eq_decide]
  omega

/-- Whether a length is at or above a limit. -/
def isReachedBy (limit : Value) (length : Nat) : Except Fault Bool :=
  (limit.comparedBy .atLeast).map fun quantity => quantity.atMost length

@[simp] theorem isReachedBy_integer (limit : Int) (length : Nat) :
    isReachedBy (.integer limit) length = .ok (decide (limit ≤ length)) := rfl

/-- What is not longer than a length below a limit is below the limit too. -/
theorem not_isReachedBy_of_le {limit : Value} {length count : Nat}
    (clear : limit.isReachedBy length = .ok false) (le : count ≤ length) :
    limit.isReachedBy count = .ok false := by
  rw [isReachedBy] at clear ⊢
  match compared : limit.comparedBy .atLeast with
  | .error fault =>
    rw [compared] at clear
    cases clear
  | .ok quantity =>
    rw [compared] at clear
    have above : quantity.atMost length = false := Except.ok.inj clear
    have alsoAbove : quantity.atMost count = false := by
      rw [Bool.eq_false_iff] at above ⊢
      exact fun below => above (Quantity.atMost_mono below (Int.ofNat_le.2 le))
    exact congrArg Except.ok alsoAbove

/-- Of a limit that stands for an integer, a length below it is less. -/
theorem lt_of_not_isReachedBy {limit : Value} {bound : Int} {length : Nat}
    (integral : limit.whole = .ok bound) (clear : limit.isReachedBy length = .ok false) :
    length < bound := by
  rw [isReachedBy, comparedBy_of_whole integral] at clear
  have above : decide (bound ≤ (length : Int)) = false := Except.ok.inj clear
  exact Int.not_le.1 (of_decide_eq_false above)

/-- A limit less one, which is the largest length below an integer limit. -/
def pred (limit : Value) : Except Fault Value :=
  match limit with
  | .truth value => .ok (.integer ((if value then 1 else 0) - 1))
  | .integer value => .ok (.integer (value - 1))
  | .real bits => .ok (.real (Float.ofBits bits - 1).toBits)
  | other => .error (.inapplicable .subtract other.typeName)

@[simp] theorem pred_integer (limit : Int) :
    pred (.integer limit) = .ok (.integer (limit - 1)) := rfl

/-- The number of octets that a size asks for: none unless it is positive, and a fraction of an
octet cannot be asked for. -/
def octetCount (size : Value) : Except Fault Nat :=
  match size.comparedBy .below with
  | .error fault => .error fault
  | .ok (.whole number) => .ok number.toNat
  | .ok (.real number) =>
    if number.atLeast 0 && !number.atMost 0 then .error (.notInteger size.typeName) else .ok 0

end Value

end RecordMarking
