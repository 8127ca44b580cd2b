import Numeral.Decimal.FixedPoint
import Numeral.Decimal.Limits
import Numeral.Digits.Limit

namespace Numeral

-- Powers are those of the core library, whatever else is imported.
attribute [local instance (high)] instPowNat

/-- Writes a decimal with another exponent. A lower one is met exactly, a higher one by rounding
half to even. A coefficient of more than `precision` digits is refused. -/
def Decimal.quantize (precision : Nat) (x : Decimal) (exponent : Int) :
    Except DecimalCondition Decimal :=
  let coefficient :=
    if exponent ≤ x.exponent then x.coefficient * 10 ^ (x.exponent - exponent).toNat
    else roundHalfEven x.coefficient (10 ^ (exponent - x.exponent).toNat)
  let y : Decimal := ⟨coefficient, exponent⟩
  if precision < y.precision then .error .invalidOperation else .ok y

/-- Why a number is not rounded. -/
inductive RoundingError where
  | arithmetic (condition : DecimalCondition)
  | noPrecision
  | digits (e : DigitError)
  deriving DecidableEq

def RoundingError.message : RoundingError → String
  | .arithmetic condition => "[<class 'decimal." ++ condition.name ++ "'>]"
  | .noPrecision => "valid range for prec is [1, MAX_PREC]"
  | .digits e => e.message

namespace FixedPoint

/-- The digits that decimal arithmetic is given to round a number: one more than its whole part and
the places that are left take up. There has to be at least one. -/
def room (whole : Digits 10) (precision : Int) : Except RoundingError Nat :=
  let room := whole.length + precision + 1
  if room < 1 then .error .noPrecision else .ok room.toNat

/-- Rounds by way of decimal arithmetic. The whole part is written before and read after. Missing
places are filled with zeros, without any arithmetic. -/
def quantized (x : FixedPoint) (precision : Int) : Except RoundingError FixedPoint :=
  if x.places ≤ precision then .ok (x.rounded precision)
  else do
    let whole ← (Digits.written Digits.limit x.whole).mapError .digits
    let room ← room whole precision
    let unit ← (DecimalLimits.common.unit (-precision)).mapError .arithmetic
    let y ← (Decimal.quantize room ⟨x.coefficient, -x.places⟩ unit).mapError .arithmetic
    let z : FixedPoint := ⟨y.coefficient * 10 ^ unit.toNat, (-unit).toNat⟩
    let _ ← (Digits.read Digits.limit (Digits.decimal z.whole)).mapError .digits
    pure z

end FixedPoint

end Numeral
