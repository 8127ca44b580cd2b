import Numeral.Decimal.Basic

namespace Numeral

-- Powers are those of the core library, whatever else is imported.
attribute [local instance (high)] instPowNat

/-- A decimal magnitude with a certain number of places after the point: the number
`coefficient / 10 ^ places`. -/
structure FixedPoint where
  coefficient : Nat
  places : Nat := 0
  deriving DecidableEq

namespace FixedPoint

/-- The part before the point. -/
def whole (x : FixedPoint) : Nat :=
  x.coefficient / 10 ^ x.places

/-- The digits after the point, exactly as many as there are places. -/
def fraction (x : FixedPoint) : Digits 10 :=
  Digits.last (by decide) x.places x.coefficient

/-- Puts together the part before the point and the digits after it. -/
def ofParts (whole : Nat) (fraction : Digits 10) : FixedPoint :=
  ⟨whole * 10 ^ fraction.length + fraction.value, fraction.length⟩

/-- Drops trailing zeros after the point. -/
def trim (coefficient : Nat) : Nat → FixedPoint
  | 0 => ⟨coefficient, 0⟩
  | places + 1 =>
    if coefficient % 10 = 0 then trim (coefficient / 10) places else ⟨coefficient, places + 1⟩

/-- Dropping trailing zeros keeps the number. -/
theorem trim_eq (coefficient places : Nat) :
    (trim coefficient places).places ≤ places ∧
      (trim coefficient places).coefficient *
        10 ^ (places - (trim coefficient places).places) = coefficient := by
  induction places generalizing coefficient with
  | zero => simp [trim]
  | succ places ih =>
    rw [trim]
    split
    · next zero =>
      obtain ⟨fewer, same⟩ := ih (coefficient / 10)
      refine ⟨by omega, ?_⟩
      rw [Nat.succ_sub fewer, Nat.pow_succ, ← Nat.mul_assoc, same]
      omega
    · simp

/-- No trailing zero is left after the point. -/
theorem trim_last (coefficient places : Nat) (some : 0 < (trim coefficient places).places) :
    (trim coefficient places).coefficient % 10 ≠ 0 := by
  induction places generalizing coefficient with
  | zero => simp [trim] at some
  | succ places ih =>
    rw [trim] at some ⊢
    split
    · next zero =>
      rw [if_pos zero] at some
      exact ih _ some
    · assumption

/-- A decimal with no more places than it needs. -/
def ofDecimal (x : Decimal) : FixedPoint :=
  if 0 ≤ x.exponent then ⟨x.coefficient * 10 ^ x.exponent.toNat, 0⟩
  else trim x.coefficient (-x.exponent).toNat

/-- The nearest multiple of `10 ^ (-precision)`, a tie going to the even one, with `precision`
places, or none if the precision is negative. Missing places are filled with zeros. -/
def rounded (x : FixedPoint) (precision : Int) : FixedPoint :=
  if x.places ≤ precision then
    ⟨x.coefficient * 10 ^ (precision.toNat - x.places), precision.toNat⟩
  else
    let unit := 10 ^ (x.places - precision).toNat
    ⟨roundHalfEven x.coefficient unit * 10 ^ (-precision).toNat, precision.toNat⟩

end FixedPoint

end Numeral
