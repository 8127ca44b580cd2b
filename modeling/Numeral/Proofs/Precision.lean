import Numeral.Number.Basic
import Numeral.Proofs.Magnitude

namespace Numeral

-- Powers are those of the core library, as in the arithmetic itself.
attribute [local instance (high)] instPowNat

namespace FixedPoint

end FixedPoint

namespace Number

/-- Decimal arithmetic gives the rounded number under the same conditions as its magnitude. -/
theorem quantized_eq_rounded_iff {n : Number} {precision : Int} (float : n.isFloat = true)
    (finite : n.isFinite = true)
    (enough : -((Digits.decimal n.magnitude.whole).length : Int) ≤ precision) :
    n.quantized precision = .ok (n.rounded precision) ↔
      n.magnitude.places ≤ precision ∨ n.magnitude.Roundable precision := by
  have digits : (n.isFloat && n.isFinite) = true := by rw [float, finite]; rfl
  rw [← FixedPoint.quantized_eq_rounded_iff enough, quantized, rounded, if_pos digits,
    if_pos digits]
  cases n.magnitude.quantized precision with
  | error e => exact ⟨nofun, nofun⟩
  | ok x =>
    constructor
    · intro same
      exact congrArg Except.ok (congrArg Number.magnitude (Except.ok.inj same))
    · intro same
      rw [Except.ok.inj same]
      rfl

end Number

end Numeral
