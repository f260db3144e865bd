import BaseApi.Double.Basic

/-!
# The fewest decimal digits that read back

The values that round to a double form an interval around it, half a last place wide on either side
(a quarter below a power of two), its ends included when the significand is even. `Double.shortest`
looks for the coarsest decimal grid with a point in that interval and takes the point nearest to the
double, of two equally near ones the even one.
-/

namespace BaseApi

/-- The positive decimal number `digits · 10 ^ exponent`. -/
structure Decimal where
  digits : Nat
  exponent : Int
deriving DecidableEq, Inhabited

namespace Double

/-- The interval of values that round to a magnitude, in quarters of a unit. -/
structure Interval where
  low : Nat
  high : Nat
  /-- Whether the two ends belong to it. -/
  closed : Bool

def interval (units : Nat) : Interval :=
  let place := Nat.pow 2 (lastPlace units)
  let significand := units / place
  let below :=
    if significand = Nat.pow 2 (precision - 1) ∧ 1 < place then place else 2 * place
  { low := 4 * units - below, high := 4 * units + 2 * place, closed := significand % 2 = 0 }

/-- Whether `point / scale` quarters of a unit lie in the interval. -/
def Interval.holds (range : Interval) (point scale : Nat) : Bool :=
  if range.closed then range.low * scale ≤ point ∧ point ≤ range.high * scale
  else range.low * scale < point ∧ point < range.high * scale

def digitCount (n : Nat) : Nat := (Nat.toDigits 10 n).length

/-- The largest `e` with `10 ^ e ≤ numerator / denominator`. -/
def decimalExponent (numerator denominator : Nat) : Int :=
  let guess : Int := digitCount numerator - digitCount denominator
  let up := Nat.pow 10 guess.toNat
  let down := Nat.pow 10 (-guess).toNat
  if denominator * up ≤ numerator * down then guess else guess - 1

/-- The point of the grid of step `10 ^ exponent` that is nearest to `units` among those that read
back as it. -/
def nearestOnGrid? (units : Nat) (exponent : Int) : Option Decimal :=
  let range := interval units
  -- A grid point `d` is the value `d * up / down`.
  let up := Nat.pow 10 exponent.toNat
  let down := Nat.pow 10 (-exponent).toNat
  let step := 4 * one * up
  let target := 4 * units * down
  let floor := target / step
  let holds := fun d => range.holds (d * step) down
  let nearest := roundRatio target step
  let further := if nearest = floor then floor + 1 else floor
  if holds nearest then some { digits := nearest, exponent }
  else if holds further then some { digits := further, exponent }
  else none

/-- Takes trailing zeros out of the digits, at most `fuel` of them. -/
def stripZeros : Nat → Decimal → Decimal
  | 0, decimal => decimal
  | fuel + 1, decimal =>
      if decimal.digits % 10 = 0 ∧ decimal.digits ≠ 0 then
        stripZeros fuel { digits := decimal.digits / 10, exponent := decimal.exponent + 1 }
      else decimal

/-- Seventeen digits identify every double. -/
def maxDigits : Nat := 17

/-- The shortest decimal that reads back as a magnitude of `units`, which is not zero. -/
def shortest (units : Nat) : Decimal :=
  let leading := decimalExponent units one
  let grids := (List.range maxDigits).map fun n : Nat => leading - (n : Int)
  match grids.findSome? (nearestOnGrid? units) with
  | some decimal => stripZeros maxDigits decimal
  | none => { digits := units, exponent := 0 }

end Double

end BaseApi
