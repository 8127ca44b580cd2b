import Mathlib.Algebra.Order.Floor.Semifield
import Mathlib.Data.Rat.Floor
import Mathlib.Tactic.FieldSimp
import Mathlib.Tactic.Linarith
import Mathlib.Tactic.Positivity
import Mathlib.Tactic.Ring
import Numeral.Binary64.Basic
import Numeral.Decimal.Lemmas

namespace Numeral

/-- The number that a decimal denotes. -/
def Decimal.value (x : Decimal) : ℚ :=
  x.coefficient * 10 ^ x.exponent

/-- The number that a decimal magnitude denotes. -/
def FixedPoint.value (x : FixedPoint) : ℚ :=
  x.coefficient / 10 ^ x.places

/-- The number that the bits of a finite floating point number denote. -/
def Binary64.value (x : Binary64) : ℚ :=
  (if x.signBit then -1 else 1) * (x.significand * 2 ^ x.exponent)

/-- The multiple of `10 ^ (-p)` nearest to `q` is `r`; where two are equally near it is the even
one. -/
def RoundsHalfEven (q : ℚ) (p : ℤ) (r : ℚ) : Prop :=
  ∃ n : ℤ, r = n * 10 ^ (-p) ∧ 2 * |q * 10 ^ p - n| ≤ 1 ∧ (2 * |q * 10 ^ p - n| = 1 → Even n)

/-- A multiple of the unit is rounded to itself. -/
theorem RoundsHalfEven.refl {q : ℚ} {p : ℤ} {n : ℤ} (whole : q * 10 ^ p = n) :
    RoundsHalfEven q p q := by
  refine ⟨n, ?_, ?_, fun tie => ?_⟩
  · rw [← whole, mul_assoc, ← zpow_add₀ (by norm_num), add_neg_cancel, zpow_zero, mul_one]
  · rw [whole, sub_self, abs_zero, mul_zero]
    exact zero_le_one
  · rw [whole, sub_self, abs_zero, mul_zero] at tie
    exact absurd tie zero_ne_one

/-- What is near to two neighbours lies half way between them, and only one of them is even. -/
theorem not_nearest_neighbours {t : ℚ} {n : ℤ} (lower : 2 * |t - n| ≤ 1)
    (upper : 2 * |t - (n + 1 : ℤ)| ≤ 1) (even : 2 * |t - n| = 1 → Even n)
    (even' : 2 * |t - (n + 1 : ℤ)| = 1 → Even (n + 1)) : False := by
  push_cast at upper even'
  have below := abs_le.mp (by linarith : |t - n| ≤ 1 / 2)
  have above := abs_le.mp (by linarith : |t - (n + 1)| ≤ 1 / 2)
  have half : t = n + 1 / 2 := by linarith
  have tie : 2 * |t - n| = 1 := by
    rw [half, add_sub_cancel_left, abs_of_pos one_half_pos]
    norm_num
  have tie' : 2 * |t - (n + 1)| = 1 := by
    rw [half, add_sub_add_left_eq_sub, abs_of_neg (by norm_num)]
    norm_num
  obtain ⟨k, double⟩ := even tie
  obtain ⟨k', double'⟩ := even' tie'
  omega

/-- There is no more than one such multiple. -/
theorem RoundsHalfEven.unique {q : ℚ} {p : ℤ} {r r' : ℚ} (first : RoundsHalfEven q p r)
    (second : RoundsHalfEven q p r') : r = r' := by
  obtain ⟨n, rfl, near, even⟩ := first
  obtain ⟨n', rfl, near', even'⟩ := second
  have bounds := abs_le.mp (by linarith : |q * 10 ^ p - n| ≤ 1 / 2)
  have bounds' := abs_le.mp (by linarith : |q * 10 ^ p - n'| ≤ 1 / 2)
  have above : n ≤ n' + 1 := by
    have cast : (n : ℚ) ≤ n' + 1 := by linarith
    exact_mod_cast cast
  have below : n' ≤ n + 1 := by
    have cast : (n' : ℚ) ≤ n + 1 := by linarith
    exact_mod_cast cast
  rcases (by omega : n = n' ∨ n = n' + 1 ∨ n' = n + 1) with same | rfl | rfl
  · rw [same]
  · exact (not_nearest_neighbours near' near even' even).elim
  · exact (not_nearest_neighbours near near' even even').elim

/-- The distance of a quotient to a natural number, counted in parts of the divisor. -/
theorem abs_div_sub_mul (n r : ℕ) {d : ℕ} (positive : 0 < d) :
    |(n / d : ℚ) - r| * d = (|(n : ℤ) - (r * d : ℕ)| : ℤ) := by
  have unit : (0 : ℚ) < d := by exact_mod_cast positive
  have whole : ((n : ℚ) / d - r) * d = n - r * d := by
    rw [sub_mul, div_mul_cancel₀ _ unit.ne']
  calc |(n / d : ℚ) - r| * d
      = |((n : ℚ) / d - r) * d| := by rw [abs_mul, abs_of_pos unit]
    _ = (|(n : ℤ) - (r * d : ℕ)| : ℤ) := by
      rw [whole]
      push_cast
      rfl

theorem roundHalfEven_roundsHalfEven (n : ℕ) {d : ℕ} (positive : 0 < d) {q : ℚ} {p : ℤ}
    (quotient : q * 10 ^ p = n / d) :
    RoundsHalfEven q p (roundHalfEven n d * 10 ^ (-p)) := by
  have unit : (0 : ℚ) < d := by exact_mod_cast positive
  obtain ⟨lower, upper⟩ := roundHalfEven_near n positive
  rw [Nat.add_mul, Nat.one_mul, Nat.mul_assoc] at lower
  have distance := abs_div_sub_mul n (roundHalfEven n d) positive
  refine ⟨roundHalfEven n d, by push_cast; rfl, ?_, fun tie => ?_⟩
  · have near : 2 * |(n : ℤ) - (roundHalfEven n d * d : ℕ)| ≤ d := by
      rcases abs_cases ((n : ℤ) - (roundHalfEven n d * d : ℕ)) with ⟨same, _⟩ | ⟨same, _⟩ <;> omega
    have near' : (2 * (|(n : ℤ) - (roundHalfEven n d * d : ℕ)| : ℤ) : ℚ) ≤ d := by
      exact_mod_cast near
    rw [quotient, Int.cast_natCast]
    refine le_of_mul_le_mul_right ?_ unit
    rw [mul_assoc, distance, one_mul]
    exact near'
  · rw [quotient, Int.cast_natCast] at tie
    have half : (2 * (|(n : ℤ) - (roundHalfEven n d * d : ℕ)| : ℤ) : ℚ) = d := by
      rw [← distance, ← mul_assoc, tie, one_mul]
    have half' : 2 * |(n : ℤ) - (roundHalfEven n d * d : ℕ)| = d := by exact_mod_cast half
    have even : roundHalfEven n d % 2 = 0 := by
      refine roundHalfEven_even positive ?_
      rw [Nat.add_mul, Nat.one_mul, Nat.mul_assoc]
      rcases abs_cases ((n : ℤ) - (roundHalfEven n d * d : ℕ)) with ⟨same, _⟩ | ⟨same, _⟩ <;> omega
    exact_mod_cast Nat.even_iff.mpr even

namespace FixedPoint

/-- A magnitude is its part before the point and the digits behind it. -/
theorem value_eq_parts (x : FixedPoint) :
    (x.whole : ℚ) + Digits.value x.fraction / 10 ^ x.fraction.length = x.value := by
  have unit : (0 : ℚ) < 10 ^ x.places := by positivity
  have parts : (x.whole * 10 ^ x.places + x.coefficient % 10 ^ x.places : ℕ) = x.coefficient :=
    Nat.div_add_mod' x.coefficient (10 ^ x.places)
  have cast : (x.coefficient : ℚ) =
      x.whole * 10 ^ x.places + (x.coefficient % 10 ^ x.places : ℕ) := by
    exact_mod_cast parts.symm
  rw [value_fraction, length_fraction, value, cast]
  field_simp

theorem floor_value (x : FixedPoint) : ⌊x.value⌋₊ = x.whole := by
  have cast : x.value = (x.coefficient : ℚ) / ((10 ^ x.places : ℕ) : ℚ) := by
    rw [value, Nat.cast_pow, Nat.cast_ofNat]
  rw [cast, Nat.floor_div_eq_div, whole]

theorem value_nonneg (x : FixedPoint) : 0 ≤ x.value := by
  rw [value]
  positivity

/-- Places that hold only zeros can be dropped. -/
theorem value_trim (coefficient places : ℕ) :
    (trim coefficient places).value = coefficient / 10 ^ places := by
  obtain ⟨fewer, same⟩ := trim_eq coefficient places
  have cast : (coefficient : ℚ) = (trim coefficient places).coefficient *
      10 ^ (places - (trim coefficient places).places) := by
    exact_mod_cast same.symm
  have split : (10 : ℚ) ^ places =
      10 ^ (trim coefficient places).places * 10 ^ (places - (trim coefficient places).places) := by
    rw [← pow_add, Nat.add_sub_cancel' fewer]
  rw [value, cast, split]
  field_simp

theorem value_ofDecimal (x : Decimal) : (ofDecimal x).value = x.value := by
  unfold ofDecimal
  split
  · next natural =>
    obtain ⟨e, exponent⟩ := Int.eq_ofNat_of_zero_le natural
    simp only [value, Decimal.value, exponent, Int.toNat_natCast, pow_zero, div_one, zpow_natCast]
    push_cast
    rfl
  · next negative =>
    obtain ⟨e, exponent⟩ := Int.eq_ofNat_of_zero_le (by omega : 0 ≤ -x.exponent)
    have flipped : x.exponent = -(e : ℤ) := by omega
    rw [value_trim, Decimal.value, exponent, Int.toNat_natCast, flipped, zpow_neg, zpow_natCast,
      div_eq_mul_inv]

/-- The last place of a decimal without needless places is no zero. -/
theorem ofDecimal_last {x : Decimal} (some : 0 < (ofDecimal x).places) :
    (ofDecimal x).coefficient % 10 ≠ 0 := by
  unfold ofDecimal at some ⊢
  split
  · next natural =>
    rw [if_pos natural] at some
    exact absurd some (Nat.lt_irrefl 0)
  · next negative =>
    rw [if_neg negative] at some
    exact trim_last _ _ some

/-- A decimal needs places exactly if it is no integer. -/
theorem places_ofDecimal_eq_zero_iff (x : Decimal) :
    (ofDecimal x).places = 0 ↔ ∃ n : ℤ, x.value = n := by
  rw [← value_ofDecimal]
  constructor
  · intro none
    refine ⟨(ofDecimal x).coefficient, ?_⟩
    rw [value, none, pow_zero, div_one]
    rfl
  · rintro ⟨n, whole⟩
    by_contra some
    have positive : 0 < (ofDecimal x).places := Nat.pos_of_ne_zero some
    have last := ofDecimal_last positive
    obtain ⟨k, places⟩ : ∃ k, (ofDecimal x).places = k + 1 := ⟨_, (Nat.succ_pred some).symm⟩
    have natural : 0 ≤ n := by
      have sign := value_nonneg (ofDecimal x)
      rw [whole] at sign
      exact_mod_cast sign
    obtain ⟨m, rfl⟩ := Int.eq_ofNat_of_zero_le natural
    have unit : (10 : ℚ) ^ (k + 1) ≠ 0 := by positivity
    rw [value, places, div_eq_iff unit] at whole
    have multiple : (ofDecimal x).coefficient = m * 10 ^ (k + 1) := by exact_mod_cast whole
    rw [Nat.pow_succ, ← Nat.mul_assoc] at multiple
    omega

/-- With as many places as there are, or more, nothing is lost. -/
theorem value_rounded_of_places_le {x : FixedPoint} {p : ℤ} (enough : x.places ≤ p) :
    (x.rounded p).value = x.value := by
  obtain ⟨k, precision⟩ := Int.eq_ofNat_of_zero_le (by omega : 0 ≤ p)
  obtain ⟨extra, length⟩ : ∃ extra, k = x.places + extra := ⟨k - x.places, by omega⟩
  rw [rounded, if_pos enough]
  simp only [value, precision, Int.toNat_natCast, length, Nat.add_sub_cancel_left]
  push_cast
  rw [pow_add]
  field_simp

/-- Rounding takes the nearest multiple of the unit and an even one in a tie. -/
theorem rounded_roundsHalfEven (x : FixedPoint) (p : ℤ) :
    RoundsHalfEven x.value p (x.rounded p).value := by
  by_cases enough : x.places ≤ p
  · obtain ⟨k, precision⟩ := Int.eq_ofNat_of_zero_le (by omega : 0 ≤ p)
    obtain ⟨extra, length⟩ : ∃ extra, k = x.places + extra := ⟨k - x.places, by omega⟩
    rw [value_rounded_of_places_le enough]
    refine RoundsHalfEven.refl (n := x.coefficient * 10 ^ extra) ?_
    rw [value, precision, length, zpow_natCast, pow_add]
    push_cast
    field_simp
  · obtain ⟨k, places⟩ := Int.eq_ofNat_of_zero_le (by omega : 0 ≤ x.places - p)
    have unit : 0 < 10 ^ k := Nat.pow_pos (by decide)
    have quotient : x.value * 10 ^ p = x.coefficient / (10 ^ k : ℕ) := by
      have shift : (10 : ℚ) ^ p = 10 ^ x.places / 10 ^ k := by
        rw [← zpow_natCast, ← zpow_natCast, ← zpow_sub₀ (by norm_num)]
        congr 1
        omega
      rw [value, shift]
      push_cast
      field_simp
    have scale : (10 : ℚ) ^ (-p) = 10 ^ (-p).toNat / 10 ^ p.toNat := by
      rw [← zpow_natCast, ← zpow_natCast, ← zpow_sub₀ (by norm_num)]
      congr 1
      omega
    have nearest := roundHalfEven_roundsHalfEven x.coefficient unit quotient
    have same : FixedPoint.value
        ⟨roundHalfEven x.coefficient (10 ^ k) * 10 ^ (-p).toNat, p.toNat⟩ =
          roundHalfEven x.coefficient (10 ^ k) * 10 ^ (-p) := by
      rw [scale, value]
      push_cast
      ring
    rw [rounded, if_neg enough]
    simp only [places, Int.toNat_natCast]
    rwa [same]

end FixedPoint

end Numeral
