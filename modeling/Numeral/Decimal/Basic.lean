import Numeral.Decimal.Rounding
import Numeral.Digits

namespace Numeral

-- Powers are those of the core library, whatever else is imported.
attribute [local instance (high)] instPowNat

/-- The decimal `coefficient * 10 ^ exponent`. -/
structure Decimal where
  coefficient : Nat
  exponent : Int
  deriving DecidableEq

namespace Decimal

/-- The number of digits of the coefficient; zero has one. -/
def precision (x : Decimal) : Nat :=
  (Digits.decimal x.coefficient).length

/-- The power of ten for which the first digit of the coefficient stands. -/
def leading (x : Decimal) : Int :=
  x.exponent + x.precision - 1

/-- Rounds to a multiple of `10 ^ k` units of the last digit, half to even, and counts in these
multiples. Where more digits go than there are, what is left is less than half a multiple. -/
def dropDigits (x : Decimal) (k : Nat) : Nat :=
  if x.precision < k then 0 else roundHalfEven x.coefficient (10 ^ k)

end Decimal

end Numeral
