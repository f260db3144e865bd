/-!
# Finite binary floating point numbers of double precision

A `Double` is a sign and a magnitude counted in units of `2⁻¹⁰⁷⁴`, the smallest positive value of
the format, so every finite value is an exact natural number of units. Arithmetic computes the
exact ratio and rounds it once: to a significand of 53 bits, to the nearest, a tie to the even
significand. A magnitude past the largest finite one has no `Double`.
-/

namespace BaseApi

/-- A finite double: its sign, and its magnitude in units of `2⁻¹⁰⁷⁴`. -/
structure Double where
  negative : Bool := false
  units : Nat
deriving DecidableEq, Inhabited

namespace Double

/-- The binary exponent of one. -/
def unitExponent : Nat := 1074

/-- One, in units. -/
def one : Nat := Nat.pow 2 unitExponent

def precision : Nat := 53

/-- The largest finite magnitude, in units. -/
def maxUnits : Nat := (Nat.pow 2 precision - 1) * Nat.pow 2 2045

/-- The exponent of the last place of a magnitude: zero for the subnormal ones. -/
def lastPlace (units : Nat) : Nat := units.log2 + 1 - precision

/-- The integer nearest to `numerator / denominator`, the even one of two equally near. -/
def roundRatio (numerator denominator : Nat) : Nat :=
  let floor := numerator / denominator
  let excess := 2 * (numerator % denominator)
  if excess < denominator ∨ (excess = denominator ∧ floor % 2 = 0) then floor else floor + 1

/-- The magnitude nearest to `numerator / denominator` units, if it is finite. -/
def roundUnits? (numerator denominator : Nat) : Option Nat :=
  let place := Nat.pow 2 (lastPlace (numerator / denominator))
  let rounded := roundRatio numerator (denominator * place) * place
  if rounded ≤ maxUnits then some rounded else none

/-- The double nearest to a natural number. -/
def ofNat? (n : Nat) : Option Double :=
  (roundUnits? (n * one) 1).map fun units => { units }

/-- The rounded product of two magnitudes. -/
def mul? (x y : Double) : Option Double :=
  (roundUnits? (x.units * y.units) one).map fun units =>
    { negative := x.negative != y.negative, units }

/-- The rounded quotient of two magnitudes; the divisor is not zero. -/
def div? (x y : Double) : Option Double :=
  (roundUnits? (x.units * one) y.units).map fun units =>
    { negative := x.negative != y.negative, units }

def neg (x : Double) : Double := { x with negative := !x.negative }

/-- Whether this is zero of either sign. -/
def isZero (x : Double) : Bool := x.units == 0

end Double

end BaseApi
