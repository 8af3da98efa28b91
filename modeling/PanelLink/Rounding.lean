/-
This file holds rounding to the nearest whole number, where a half goes to the even
neighbour, and the binary fraction of 53 bits that is nearest to the reciprocal of a
number.
-/

namespace PanelLink.Rounding

/-- The whole number nearest to a quotient; a half goes to the even neighbour. -/
def nearest (numerator denominator : Nat) : Nat :=
  let whole := numerator / denominator
  let twice := 2 * (numerator % denominator)
  if twice < denominator then whole
  else if denominator < twice then whole + 1
  else whole + whole % 2

/-- A binary fraction: a significand divided by a power of two. -/
structure Fraction where
  significand : Nat
  places : Nat
  deriving DecidableEq, Repr

/-- The number of bits of a significand. -/
def significandBits : Nat := 53

/-- The least power of two that a positive number does not exceed, as an exponent. -/
def ceilingLog (number : Nat) : Nat :=
  if number ≤ 1 then 0 else (number - 1).log2 + 1

/-- The fraction with a full significand that is nearest to one divided by a number. -/
def reciprocal (number : Nat) : Fraction :=
  let places := significandBits - 1 + ceilingLog number
  ⟨nearest (Nat.pow 2 places) number, places⟩

/-- The whole number nearest to a multiple of a fraction. -/
def Fraction.times (fraction : Fraction) (factor : Nat) : Nat :=
  nearest (fraction.significand * factor) (Nat.pow 2 fraction.places)

end PanelLink.Rounding
