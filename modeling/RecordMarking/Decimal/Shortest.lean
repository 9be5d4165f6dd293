/-!
# Shortest decimals

A binary floating point number stands for every real that rounds to it. Its shortest
decimal is the point of that interval on the coarsest power-of-ten grid that meets the
interval, the nearer point if the grid meets it twice and the even one on a tie. Everything
is computed on natural numbers, so nothing is rounded on the way.
-/

namespace RecordMarking

/-- The number `coefficient * 10 ^ exponent`. -/
structure Decimal where
  coefficient : Nat
  exponent : Int
deriving DecidableEq, Repr

/-- The number `significand * 2 ^ exponent` with its rounding interval. All numbers whose
distance is at most half a unit of the last place round to it, except that the distance below
is only a quarter when `narrowBelow` says that the next smaller number is twice as near. -/
structure BinaryPoint where
  significand : Nat
  exponent : Int
  narrowBelow : Bool
deriving DecidableEq, Repr

namespace BinaryPoint

/-- Quarter units of the last place from zero to the lower end of the rounding interval. -/
def low (point : BinaryPoint) : Nat :=
  4 * point.significand - if point.narrowBelow then 1 else 2

/-- Quarter units of the last place from zero to the upper end of the rounding interval. -/
def high (point : BinaryPoint) : Nat :=
  4 * point.significand + 2

/-- The number of grid cells, as a fraction, in a quarter unit of the last place on the
grid `10 ^ power`. -/
def cells (point : BinaryPoint) (power : Int) : Nat × Nat :=
  let quarter := point.exponent - 2
  (Nat.pow 2 quarter.toNat * Nat.pow 10 (-power).toNat,
    Nat.pow 10 power.toNat * Nat.pow 2 (-quarter).toNat)

/-- Whether a point of the grid `10 ^ power` rounds to the number. The ends of the interval
belong to it exactly when the significand is even. -/
def admits (point : BinaryPoint) (power : Int) (coefficient : Nat) : Bool :=
  let (factor, unit) := point.cells power
  if point.significand % 2 = 0 then
    point.low * factor ≤ coefficient * unit && coefficient * unit ≤ point.high * factor
  else
    point.low * factor < coefficient * unit && coefficient * unit < point.high * factor

/-- The decimal on the grid `10 ^ power` that rounds to the number, if there is one. -/
def onGrid? (point : BinaryPoint) (power : Int) : Option Decimal :=
  let (factor, unit) := point.cells power
  let exact := 4 * point.significand * factor
  let below := exact / unit
  let chosen :=
    match point.admits power below, point.admits power (below + 1) with
    | true, true =>
      let distanceBelow := exact - below * unit
      let distanceAbove := (below + 1) * unit - exact
      if distanceBelow < distanceAbove ∨ (distanceBelow = distanceAbove ∧ below % 2 = 0) then
        some below
      else some (below + 1)
    | true, false => some below
    | false, true => some (below + 1)
    | false, false => none
  chosen.map fun coefficient => ⟨coefficient, power⟩

/-- The shortest decimal of a positive number. The grids tried reach from above the largest
binary64 number to below the smallest. -/
def shortest (point : BinaryPoint) : Decimal :=
  ((List.range 634).findSome? fun (step : Nat) =>
    point.onGrid? (309 - Int.ofNat step)).getD ⟨0, 0⟩

end BinaryPoint

/-- A binary64 bit pattern, taken apart. -/
inductive Binary64 where
  | zero (negative : Bool)
  | finite (negative : Bool) (magnitude : BinaryPoint)
  | infinite (negative : Bool)
  | undefined
deriving DecidableEq, Repr

namespace Binary64

/-- Take a bit pattern apart into sign, exponent and significand. -/
def ofBits (bits : UInt64) : Binary64 :=
  let word := bits.toNat
  let negative := word / 0x8000000000000000 == 1
  let exponent : Nat := word / 0x10000000000000 % 0x800
  let trailing : Nat := word % 0x10000000000000
  if exponent = 0x7ff then
    if trailing = 0 then .infinite negative else .undefined
  else if exponent = 0 then
    if trailing = 0 then .zero negative else .finite negative ⟨trailing, -1074, false⟩
  else
    .finite negative
      ⟨0x10000000000000 + trailing, (exponent : Int) - 1075, trailing == 0 && 1 < exponent⟩

/-- A decimal in text: positional while the leading digit stands between the fourth place
after the point and the sixteenth before it, with an exponent of at least two digits
otherwise. A positional whole number keeps one zero after the point. -/
def renderDecimal (decimal : Decimal) : String :=
  let digits := Nat.toDigits 10 decimal.coefficient
  let leading := decimal.exponent + (digits.length : Int) - 1
  if -4 ≤ leading ∧ leading < 16 then
    if leading < 0 then
      String.ofList ('0' :: '.' :: List.replicate (-leading - 1).toNat '0' ++ digits)
    else if 0 ≤ decimal.exponent then
      String.ofList (digits ++ List.replicate decimal.exponent.toNat '0' ++ ['.', '0'])
    else
      String.ofList
        (digits.take (leading + 1).toNat ++ '.' :: digits.drop (leading + 1).toNat)
  else
    let mantissa := match digits with
      | first :: second :: rest => first :: '.' :: second :: rest
      | short => short
    let places := Nat.toDigits 10 leading.natAbs
    String.ofList
      (mantissa ++ ['e', if leading < 0 then '-' else '+'] ++
        List.replicate (2 - places.length) '0' ++ places)

/-- The text of a binary64 number by its shortest decimal. -/
def render (number : Binary64) : String :=
  let sign (negative : Bool) : String := if negative then "-" else ""
  match number with
  | .zero negative => sign negative ++ "0.0"
  | .finite negative magnitude => sign negative ++ renderDecimal magnitude.shortest
  | .infinite negative => sign negative ++ "inf"
  | .undefined => "nan"

end Binary64

end RecordMarking
