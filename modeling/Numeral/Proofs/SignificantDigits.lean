import Mathlib.Algebra.Order.Field.Power
import Mathlib.Data.Int.Log
import Numeral.Proofs.Magnitude

namespace Numeral

theorem RoundsHalfEven.of_multiple {q : ℚ} {p n : ℤ} (multiple : q = n * 10 ^ (-p)) :
    RoundsHalfEven q p q := by
  refine RoundsHalfEven.refl (n := n) ?_
  rw [multiple, mul_assoc, ← zpow_add₀ (by norm_num), neg_add_cancel, zpow_zero, mul_one]

/-- Rounding leaves a number alone exactly if it is a multiple of the unit. -/
theorem RoundsHalfEven.eq_self_iff {q : ℚ} {p : ℤ} {r : ℚ} (nearest : RoundsHalfEven q p r) :
    r = q ↔ ∃ n : ℤ, q = n * 10 ^ (-p) := by
  constructor
  · rintro rfl
    obtain ⟨n, multiple, _⟩ := nearest
    exact ⟨n, multiple⟩
  · rintro ⟨n, multiple⟩
    exact nearest.unique (.of_multiple multiple)

namespace Decimal

theorem value_nonneg (x : Decimal) : 0 ≤ x.value := by
  rw [value]
  positivity

theorem value_eq_zero_iff (x : Decimal) : x.value = 0 ↔ x.coefficient = 0 := by
  have unit : (10 : ℚ) ^ x.exponent ≠ 0 := by positivity
  rw [value, mul_eq_zero, or_iff_left unit, Nat.cast_eq_zero]

theorem value_zero (e : Int) : value ⟨0, e⟩ = 0 :=
  (value_eq_zero_iff _).mpr rfl

/-- A multiple of one power of ten is a multiple of every lower one. -/
theorem exists_value_eq (x : Decimal) {e : ℤ} (lower : e ≤ x.exponent) :
    ∃ n : ℤ, x.value = n * 10 ^ e := by
  obtain ⟨k, apart⟩ := Int.eq_ofNat_of_zero_le (by omega : 0 ≤ x.exponent - e)
  refine ⟨x.coefficient * 10 ^ k, ?_⟩
  have split : x.exponent = k + e := by omega
  rw [value, split, zpow_add₀ (by norm_num), zpow_natCast]
  push_cast
  ring

/-- The first digit of a decimal other than zero stands for the greatest power of ten that is not
above it. -/
theorem leading_eq_log {x : Decimal} (positive : 0 < x.coefficient) :
    x.leading = Int.log 10 x.value := by
  have some : 0 < x.precision := List.length_pos_iff.mpr (Digits.ofNat_ne_nil _ _)
  obtain ⟨k, length⟩ : ∃ k, x.precision = k + 1 := ⟨x.precision - 1, by omega⟩
  have least : 10 ^ k ≤ x.coefficient := by
    have counts := Digits.pow_length_decimal_le positive
    rwa [← precision, length, Nat.add_sub_cancel] at counts
  have below : x.coefficient < 10 ^ (k + 1) := length ▸ Digits.lt_pow_length_decimal _
  have power : x.leading = k + x.exponent := by
    rw [leading, length]
    push_cast
    ring
  have unit : (0 : ℚ) < 10 ^ x.exponent := by positivity
  have nonzeroValue : 0 < x.value := mul_pos (by exact_mod_cast positive) unit
  refine le_antisymm ?_ (Int.lt_add_one_iff.mp ?_)
  · refine (Int.zpow_le_iff_le_log (by decide) nonzeroValue).mp ?_
    rw [power, zpow_add₀ (by norm_num), zpow_natCast]
    exact mul_le_mul_of_nonneg_right (by exact_mod_cast least) unit.le
  · refine (Int.lt_zpow_iff_log_lt (by decide) nonzeroValue).mp ?_
    have next : x.leading + 1 = (k + 1 : ℕ) + x.exponent := by
      rw [power]
      push_cast
      ring
    rw [next, zpow_add₀ (by norm_num), zpow_natCast]
    exact mul_lt_mul_of_pos_right (by exact_mod_cast below) unit

end Decimal

namespace DecimalLimits

/-- The limits hold the number: it is a power of ten for which a last digit can stand, times a
coefficient that does not have too many digits. -/
def Represents (limits : DecimalLimits) (q : ℚ) : Prop :=
  ∃ x : Decimal, x.coefficient < 10 ^ limits.precision ∧ limits.tiny ≤ x.exponent ∧ q = x.value

/-- The power of ten for which the last of all the digits stands that a number can have. -/
def lastPower (limits : DecimalLimits) (q : ℚ) : ℤ :=
  max limits.tiny (Int.log 10 q - limits.precision + 1)

/-- A number is held by the limits exactly if it is a multiple of what its last digit can stand
for. -/
theorem represents_iff {limits : DecimalLimits} {q : ℚ} (sign : 0 ≤ q) :
    limits.Represents q ↔ ∃ n : ℤ, q = n * 10 ^ limits.lastPower q := by
  rcases sign.eq_or_lt with zero | positive
  · subst zero
    refine iff_of_true ?_ ⟨0, by rw [Int.cast_zero, zero_mul]⟩
    exact ⟨⟨0, limits.tiny⟩, Nat.pow_pos (by decide), le_rfl, (Decimal.value_zero _).symm⟩
  constructor
  · rintro ⟨x, short, low, rfl⟩
    refine x.exists_value_eq (max_le low ?_)
    have below : x.value < (10 : ℕ) ^ (limits.precision + x.exponent) := by
      rw [zpow_add₀ (by norm_num), zpow_natCast]
      exact mul_lt_mul_of_pos_right (by exact_mod_cast short) (by positivity)
    have log := (Int.lt_zpow_iff_log_lt (by decide) positive).mp below
    omega
  · rintro ⟨n, multiple⟩
    have unit : (0 : ℚ) < 10 ^ limits.lastPower q := by positivity
    have natural : 0 ≤ n := by
      rw [multiple] at sign
      exact_mod_cast nonneg_of_mul_nonneg_left sign unit
    obtain ⟨c, rfl⟩ := Int.eq_ofNat_of_zero_le natural
    refine ⟨⟨c, limits.lastPower q⟩, ?_, le_max_left _ _, multiple⟩
    have below : q < (10 : ℕ) ^ (limits.precision + limits.lastPower q) := by
      refine (Int.lt_zpow_iff_log_lt (by decide) positive).mpr ?_
      have last : Int.log 10 q - limits.precision + 1 ≤ limits.lastPower q := le_max_right _ _
      omega
    rw [zpow_add₀ (by norm_num), zpow_natCast] at below
    have scaled : (c : ℚ) * 10 ^ limits.lastPower q <
        (10 : ℕ) ^ limits.precision * 10 ^ limits.lastPower q := by
      calc (c : ℚ) * 10 ^ limits.lastPower q = q := multiple.symm
        _ < _ := below
    exact_mod_cast lt_of_mul_lt_mul_right scaled unit.le

theorem exponent_eq {limits : DecimalLimits} {x : Decimal} (positive : 0 < x.coefficient) :
    limits.exponent x = max x.exponent (limits.lastPower x.value) := by
  rw [exponent, lastPower, Decimal.leading_eq_log positive]

/-- Before it is known whether there is room for the first digit, the number is already rounded to
a multiple of what its last digit can stand for. -/
theorem dropDigits_roundsHalfEven (limits : DecimalLimits) {x : Decimal}
    (positive : 0 < x.coefficient) :
    RoundsHalfEven x.value (-limits.lastPower x.value)
      (Decimal.value
        ⟨x.dropDigits (limits.exponent x - x.exponent).toNat, limits.exponent x⟩) := by
  rw [exponent_eq positive, Decimal.dropDigits_eq]
  rcases le_or_gt (limits.lastPower x.value) x.exponent with enough | more
  · have whole := roundHalfEven_mul_right x.coefficient Nat.zero_lt_one
    rw [Nat.mul_one] at whole
    rw [max_eq_left enough, sub_self, Int.toNat_zero, Nat.pow_zero, whole]
    obtain ⟨n, multiple⟩ := x.exists_value_eq enough
    exact .of_multiple (n := n) (by rwa [neg_neg])
  · rw [max_eq_right more.le]
    obtain ⟨k, dropped⟩ := Int.eq_ofNat_of_zero_le (sub_nonneg.mpr more.le)
    have quotient : x.value * 10 ^ (-limits.lastPower x.value) =
        x.coefficient / (10 ^ k : ℕ) := by
      have power : x.exponent + -limits.lastPower x.value = -(k : ℤ) := by omega
      calc x.value * 10 ^ (-limits.lastPower x.value)
          = x.coefficient * 10 ^ (x.exponent + -limits.lastPower x.value) := by
            rw [zpow_add₀ (by norm_num), ← mul_assoc, ← Decimal.value]
        _ = x.coefficient / (10 ^ k : ℕ) := by
            rw [power, zpow_neg, zpow_natCast, Nat.cast_pow, Nat.cast_ofNat, div_eq_mul_inv]
    have nearest := roundHalfEven_roundsHalfEven x.coefficient (Nat.pow_pos (by decide)) quotient
    rw [neg_neg] at nearest
    rwa [dropped, Int.toNat_natCast]

/-- Rounding moves the first digit by no more than one place to the left. -/
theorem leading_dropDigits_le {limits : DecimalLimits} {x : Decimal} {most : ℤ}
    (digits : 0 < limits.precision) (least : limits.tiny ≤ most) (first : x.leading < most) :
    Decimal.leading ⟨x.dropDigits (limits.exponent x - x.exponent).toNat, limits.exponent x⟩ ≤
      most := by
  have some : 0 < x.precision := List.length_pos_iff.mpr (Digits.ofNat_ne_nil _ _)
  have room : limits.exponent x ≤ most := by
    rw [exponent]
    rw [Decimal.leading] at first ⊢
    omega
  obtain ⟨k, dropped⟩ := Int.eq_ofNat_of_zero_le
    (by rw [exponent]; omega : 0 ≤ limits.exponent x - x.exponent)
  -- At most `j` digits are left, and a carry adds no more than one to them.
  obtain ⟨j, left⟩ : ∃ j : ℕ, x.precision ≤ k + j ∧ limits.exponent x + j ≤ most := by
    refine ⟨x.precision - k, by omega, ?_⟩
    rw [Decimal.leading] at first
    omega
  have carried : x.dropDigits k < 10 ^ (j + 1) := by
    have quotient : x.coefficient / 10 ^ k < 10 ^ j := by
      rw [Nat.div_lt_iff_lt_mul (Nat.pow_pos (by decide)), ← Nat.pow_add, Nat.add_comm]
      exact (Digits.lt_pow_length_decimal _).trans_le (Nat.pow_le_pow_right (by decide) left.1)
    rw [Decimal.dropDigits_eq]
    calc roundHalfEven x.coefficient (10 ^ k) ≤ x.coefficient / 10 ^ k + 1 := roundHalfEven_le _ _
      _ ≤ 10 ^ j := quotient
      _ < 10 ^ (j + 1) := Nat.pow_lt_pow_succ (by decide)
  have length := Digits.length_decimal_le (Nat.succ_pos j) carried
  rw [dropped, Int.toNat_natCast]
  simp only [Decimal.leading, Decimal.precision]
  omega

/-- Below the greatest power of ten a number is rounded to the nearest multiple of what its last
digit can stand for, without any failure. A power of ten that is above the number is not below the
outcome. -/
theorem round_roundsHalfEven {limits : DecimalLimits} {x : Decimal} {most : ℤ}
    (digits : 0 < limits.precision) (least : limits.tiny ≤ most) (natural : 0 ≤ most)
    (within : most ≤ limits.greatest) (below : x.value < 10 ^ most) :
    ∃ y, limits.round x = .ok y ∧ y.leading ≤ most ∧
      RoundsHalfEven x.value (-limits.lastPower x.value) y.value := by
  have nothing : Decimal.leading ⟨0, 0⟩ ≤ most :=
    (by decide +kernel : Decimal.leading ⟨0, 0⟩ = 0).trans_le natural
  rcases Nat.eq_zero_or_pos x.coefficient with zero | positive
  · have value : x.value = 0 := x.value_eq_zero_iff.mpr zero
    -- Zero may have any exponent, so its first digit says nothing about the room for it.
    have zeros : roundHalfEven 0 (10 ^ (limits.exponent x - x.exponent).toNat) = 0 := by
      simpa using roundHalfEven_mul_right 0
        (Nat.pow_pos (by decide) : 0 < 10 ^ (limits.exponent x - x.exponent).toNat)
    refine ⟨⟨0, 0⟩, ?_, nothing, ?_⟩
    · simp only [round, Decimal.dropDigits_eq, zero, zeros, if_true]
    · rw [value, Decimal.value_zero]
      exact .of_multiple (n := 0) (by rw [Int.cast_zero, zero_mul])
  · have nonzero : 0 < x.value :=
      lt_of_le_of_ne x.value_nonneg fun zero => positive.ne' (x.value_eq_zero_iff.mp zero.symm)
    have first : x.leading < most := by
      rw [Decimal.leading_eq_log positive]
      exact (Int.lt_zpow_iff_log_lt (by decide) nonzero).mp (by exact_mod_cast below)
    have nearest := limits.dropDigits_roundsHalfEven positive
    simp only [round]
    split
    · next zero =>
      rw [zero, Decimal.value_zero] at nearest
      exact ⟨⟨0, 0⟩, rfl, nothing, by rwa [Decimal.value_zero]⟩
    · have leading := leading_dropDigits_le digits least first
      rw [if_pos (leading.trans within)]
      exact ⟨_, rfl, leading, nearest⟩

end DecimalLimits

namespace FixedPoint

/-- A magnitude without a trailing zero after the point is known by its value. -/
theorem eq_of_value_eq {x y : FixedPoint} (xLast : 0 < x.places → x.coefficient % 10 ≠ 0)
    (yLast : 0 < y.places → y.coefficient % 10 ≠ 0) (same : x.value = y.value) : x = y := by
  have cross : x.coefficient * 10 ^ y.places = y.coefficient * 10 ^ x.places := by
    rw [value, value, div_eq_div_iff (by positivity) (by positivity)] at same
    exact_mod_cast same
  have noLonger : ∀ a b : FixedPoint, (0 < a.places → a.coefficient % 10 ≠ 0) →
      a.coefficient * 10 ^ b.places = b.coefficient * 10 ^ a.places → a.places ≤ b.places := by
    intro a b last equal
    by_contra longer
    obtain ⟨k, more⟩ : ∃ k, a.places = b.places + (k + 1) := ⟨a.places - b.places - 1, by omega⟩
    rw [more, Nat.add_comm, Nat.pow_add, ← Nat.mul_assoc] at equal
    have scaled := Nat.eq_of_mul_eq_mul_right (Nat.pow_pos (by decide)) equal
    rw [Nat.pow_succ, ← Nat.mul_assoc] at scaled
    exact last (by omega) (by omega)
  have places := le_antisymm (noLonger x y xLast cross) (noLonger y x yLast cross.symm)
  rw [places] at cross
  have coefficient := Nat.eq_of_mul_eq_mul_right (Nat.pow_pos (by decide)) cross
  rcases x with ⟨c, k⟩
  rcases y with ⟨c', k'⟩
  cases places
  cases coefficient
  rfl

/-- Decimals of one value have the same digits before and after the point. -/
theorem ofDecimal_eq_of_value_eq {x y : Decimal} (same : x.value = y.value) :
    ofDecimal x = ofDecimal y :=
  eq_of_value_eq ofDecimal_last ofDecimal_last (by rw [value_ofDecimal, value_ofDecimal, same])

end FixedPoint

end Numeral
