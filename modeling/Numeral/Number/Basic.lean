import Numeral.Binary64.Shortest
import Numeral.Decimal.Quantize

namespace Numeral

/-- A floating point number without digits. -/
inductive Special where
  | infinite
  | nan
  deriving DecidableEq

def Special.text : Special → String
  | .infinite => "inf"
  | .nan => "nan"

/-- A number as it is written: its sign apart from a decimal magnitude. -/
structure Number where
  negative : Bool := false
  magnitude : FixedPoint := ⟨0, 0⟩
  isFloat : Bool := false
  special : Option Special := none
  deriving DecidableEq

namespace Number

def ofInt (n : Int) : Number where
  negative := n < 0
  magnitude := ⟨n.natAbs, 0⟩

/-- A floating point number whose digits are those of `magnitude`. A negative zero is not
negative, and a number without digits has no magnitude. -/
def ofFloat (x : Binary64) (magnitude : Decimal) : Number :=
  if x.isNaN then { isFloat := true, special := some .nan }
  else if x.isInfinite then
    { negative := x.isNegative, isFloat := true, special := some .infinite }
  else { negative := x.isNegative, magnitude := .ofDecimal magnitude, isFloat := true }

def isFinite (n : Number) : Bool :=
  n.special.isNone

theorem isFloat_ofFloat (x : Binary64) (magnitude : Decimal) :
    (ofFloat x magnitude).isFloat = true := by
  unfold ofFloat
  split
  · rfl
  · split <;> rfl

/-- A number lacks digits exactly if it was made of one that is infinite or none at all. -/
theorem isFinite_ofFloat (x : Binary64) (magnitude : Decimal) :
    (ofFloat x magnitude).isFinite = x.isFinite := by
  unfold ofFloat isFinite Binary64.isFinite Binary64.isNaN Binary64.isInfinite
  by_cases field : x.field = 2047
  · by_cases fraction : x.fraction = 0 <;> simp [field, fraction]
  · simp [field]

/-- Rounds the digits of a floating point number; any other number stays as it is. -/
def rounded (n : Number) (precision : Int) : Number :=
  if n.isFloat && n.isFinite then { n with magnitude := n.magnitude.rounded precision } else n

/-- Rounds a number by way of decimal arithmetic, which can refuse. -/
def quantized (n : Number) (precision : Int) : Except RoundingError Number :=
  if n.isFloat && n.isFinite then
    (n.magnitude.quantized precision).map fun x => { n with magnitude := x }
  else .ok n

end Number

end Numeral
