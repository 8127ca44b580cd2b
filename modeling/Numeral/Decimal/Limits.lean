import Numeral.Decimal.Basic

namespace Numeral

/-- The size of decimal arithmetic: how many digits a coefficient has at most, and for which powers
of ten a first digit stands. Below `least` it stands as well, at the cost of digits at the end. -/
structure DecimalLimits where
  precision : Nat
  least : Int
  greatest : Int

/-- The conditions on which decimal arithmetic stops. -/
inductive DecimalCondition where
  | invalidOperation
  | overflow
  deriving DecidableEq

def DecimalCondition.name : DecimalCondition → String
  | .invalidOperation => "InvalidOperation"
  | .overflow => "Overflow"

namespace DecimalLimits

/-- The size of decimal arithmetic where nothing else is asked for. -/
def common : DecimalLimits where
  precision := 28
  least := -999999
  greatest := 999999

/-- The power of ten for which a last digit stands at least. -/
def tiny (limits : DecimalLimits) : Int :=
  limits.least - limits.precision + 1

/-- Whether a decimal is within the limits as it is written. -/
def Holds (limits : DecimalLimits) (x : Decimal) : Prop :=
  x.precision ≤ limits.precision ∧ limits.tiny ≤ x.exponent ∧ x.leading ≤ limits.greatest

instance (limits : DecimalLimits) (x : Decimal) : Decidable (limits.Holds x) :=
  inferInstanceAs (Decidable (_ ∧ _ ∧ _))

/-- The exponent with which a decimal is written within the limits: its own, unless it would have
too many digits or its last digit would stand too low. -/
def exponent (limits : DecimalLimits) (x : Decimal) : Int :=
  max x.exponent (max limits.tiny (x.leading - limits.precision + 1))

/-- The nearest decimal within the limits, a tie going to the even coefficient. Zero needs no
exponent. -/
def round (limits : DecimalLimits) (x : Decimal) : Except DecimalCondition Decimal :=
  let exponent := limits.exponent x
  let y : Decimal := ⟨x.dropDigits (exponent - x.exponent).toNat, exponent⟩
  if y.coefficient = 0 then .ok ⟨0, 0⟩
  else if y.leading ≤ limits.greatest then .ok y
  else .error .overflow

/-- The exponent of the decimal `10 ^ exponent` within the limits. It is a shift by `exponent`
places, which must not be too far; where the decimal is too small, zero is left of it. -/
def unit (limits : DecimalLimits) (exponent : Int) : Except DecimalCondition Int :=
  if 2 * (limits.greatest + limits.precision) < exponent.natAbs then .error .invalidOperation
  else if limits.greatest < exponent then .error .overflow
  else .ok (max exponent limits.tiny)

end DecimalLimits

end Numeral
