import BaseApi.Double.Shortest

/-!
# The text of a double

`Double.text` writes the shortest digits that read back. Magnitudes from `10⁻⁵` up to, but not
including, `10¹⁶` are written positionally, with a fraction even if it is `.0`; the others with an
exponent that always has a sign.
-/

namespace BaseApi

/-- How a double is laid out: which decimal exponents of the leading digit are written
positionally. -/
structure DoubleLayout where
  /-- The least exponent of the leading digit that is written positionally. -/
  least : Int
  greatest : Int

namespace Double

/-- Positional from `10⁻⁵` to just below `10¹⁶`. -/
def layout : DoubleLayout := { least := -5, greatest := 15 }

def digitChars (n : Nat) : List Char := Nat.toDigits 10 n

/-- The digits with a point after the first `whole` of them, filled up with zeros on either side. -/
def positional (digits : List Char) (whole : Int) : List Char :=
  let count := digits.length
  if whole ≤ 0 then '0' :: '.' :: (List.replicate (-whole).toNat '0' ++ digits)
  else if count ≤ whole.toNat then
    digits ++ List.replicate (whole.toNat - count) '0' ++ ['.', '0']
  else digits.take whole.toNat ++ '.' :: digits.drop whole.toNat

/-- The digits with a point after the first one, if there are more, and the exponent of the first.
-/
def scientific (digits : List Char) (leading : Int) : List Char :=
  let mantissa := match digits with
    | first :: second :: rest => first :: '.' :: second :: rest
    | few => few
  let sign := if leading < 0 then '-' else '+'
  mantissa ++ 'e' :: sign :: digitChars leading.natAbs

/-- A positive decimal, laid out. -/
def decimalChars (format : DoubleLayout) (decimal : Decimal) : List Char :=
  let digits := digitChars decimal.digits
  let leading : Int := digits.length - 1 + decimal.exponent
  if format.least ≤ leading ∧ leading ≤ format.greatest then positional digits (leading + 1)
  else scientific digits leading

def chars (x : Double) : List Char :=
  let magnitude := if x.isZero then ['0', '.', '0'] else decimalChars layout (shortest x.units)
  if x.negative then '-' :: magnitude else magnitude

/-- The text of a double: the fewest digits that read back. -/
def text (x : Double) : String := String.ofList x.chars

end Double

end BaseApi
