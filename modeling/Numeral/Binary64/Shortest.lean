import Numeral.Binary64.Basic
import Numeral.Decimal.Basic

namespace Numeral.Binary64

-- Powers are those of the core library, whatever else is imported.
attribute [local instance (high)] instPowNat

/-- The numbers `coefficient * 10 ^ power` and `significand * 2 ^ exponent`, brought to a common
unit. -/
def scaled (coefficient : Nat) (power : Int) (significand : Nat) (exponent : Int) : Nat × Nat :=
  (coefficient * 10 ^ power.toNat * 2 ^ (-exponent).toNat,
    significand * 2 ^ exponent.toNat * 10 ^ (-power).toNat)

/-- Whether the decimal `coefficient * 10 ^ power` rounds to the magnitude of `x`. The numbers that
do reach half way to the two neighbours, and the lower neighbour of a power of two is only half as
far away. The two ends belong to them if the significand is even. -/
def covers (x : Binary64) (coefficient : Nat) (power : Int) : Bool :=
  let m := x.significand
  let below := if x.fraction = 0 ∧ 1 < x.field then 1 else 2
  let (d, low) := scaled coefficient power (4 * m - below) (x.exponent - 2)
  let (_, high) := scaled coefficient power (4 * m + 2) (x.exponent - 2)
  if m % 2 = 0 then low ≤ d && d ≤ high else low < d && d < high

/-- The multiple of `10 ^ power` nearest to the magnitude of `x` among those that round to it. Only
the two multiples around the magnitude can be it. -/
def onGrid? (x : Binary64) (power : Int) : Option Nat :=
  let (unit, magnitude) := scaled 1 power x.significand x.exponent
  let low := magnitude / unit
  match x.covers low power, x.covers (low + 1) power with
  | true, true => some (roundHalfEven magnitude unit)
  | true, false => some low
  | false, true => some (low + 1)
  | false, false => none

/-- Tries `count` grids, each ten times as fine as the one before. -/
def coarsest? (x : Binary64) : Nat → Int → Option Decimal
  | 0, _ => none
  | count + 1, power =>
    match x.onGrid? power with
    | some c => some ⟨c, power⟩
    | none => coarsest? x count (power - 1)

/-- The exact magnitude. -/
def exact (x : Binary64) : Decimal :=
  if 0 ≤ x.exponent then ⟨x.significand * 2 ^ x.exponent.toNat, 0⟩
  else ⟨x.significand * 5 ^ (-x.exponent).toNat, x.exponent⟩

/-- A power of ten above everything that rounds to the magnitude of `x`. -/
def powerAbove (x : Binary64) : Nat :=
  (x.significand * 2 ^ x.exponent.toNat / 2 ^ (-x.exponent).toNat).log2 / 3 + 1

/-- The shortest decimal that rounds to the magnitude of a finite `x`, and of those the nearest: a
point on the coarsest decimal grid that has one. The search ends, since every magnitude is a
multiple of `10 ^ (-1074)`. -/
def shortest (x : Binary64) : Decimal :=
  if x.isZero then ⟨0, 0⟩
  else (x.coarsest? (x.powerAbove + 1075) x.powerAbove).getD x.exact

end Numeral.Binary64
