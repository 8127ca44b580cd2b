import Mathlib.Algebra.Group.Nat.Defs
import Numeral.Decimal.Quantize
import Numeral.Digits.Lemmas
import Numeral.Outcome

namespace Numeral

/-- Digits that are dropped are rounded away, however many they are. -/
theorem Decimal.dropDigits_eq (x : Decimal) (k : Nat) :
    x.dropDigits k = roundHalfEven x.coefficient (10 ^ k) := by
  unfold dropDigits
  split
  · next more =>
    have below : x.coefficient < 10 ^ x.precision := Digits.lt_pow_length_decimal _
    have room : 10 ^ x.precision * 10 ≤ 10 ^ k := by
      rw [← Nat.pow_succ]
      exact Nat.pow_le_pow_right (by decide) more
    have small : x.coefficient < 10 ^ k := by omega
    simp only [roundHalfEven, Nat.div_eq_of_lt small, Nat.mod_eq_of_lt small]
    rw [if_neg (by omega)]
  · rfl

namespace FixedPoint

theorem length_fraction (x : FixedPoint) : x.fraction.length = x.places :=
  Digits.length_last _ _ _

theorem value_fraction (x : FixedPoint) :
    Digits.value x.fraction = x.coefficient % 10 ^ x.places :=
  Digits.value_last _ _ _

/-- The coefficient has no more digits than the whole part and the places together. -/
theorem coefficient_lt (x : FixedPoint) :
    x.coefficient < 10 ^ ((Digits.decimal x.whole).length + x.places) := by
  have below := Digits.lt_pow_length_decimal x.whole
  rw [Nat.pow_add]
  exact (Nat.div_lt_iff_lt_mul (Nat.pow_pos (by decide))).mp below

/-- Decimal arithmetic has room for the rounded digits: a carry past the whole part takes the one
digit more that it was given. -/
theorem quantize_eq {x : FixedPoint} {precision : Int} (fewer : precision < x.places)
    (enough : -((Digits.decimal x.whole).length : Int) ≤ precision) :
    Decimal.quantize ((Digits.decimal x.whole).length + precision + 1).toNat
        ⟨x.coefficient, -x.places⟩ (-precision) =
      .ok ⟨roundHalfEven x.coefficient (10 ^ (x.places - precision).toNat), -precision⟩ := by
  obtain ⟨j, room⟩ := Int.eq_ofNat_of_zero_le
    (by omega : 0 ≤ ((Digits.decimal x.whole).length : Int) + precision)
  obtain ⟨k, dropped⟩ := Int.eq_ofNat_of_zero_le (by omega : 0 ≤ (x.places : Int) - precision)
  have split : j + k = (Digits.decimal x.whole).length + x.places := by omega
  have quotient : x.coefficient / 10 ^ k < 10 ^ j := by
    rw [Nat.div_lt_iff_lt_mul (Nat.pow_pos (by decide)), ← Nat.pow_add, split]
    exact x.coefficient_lt
  have carried : roundHalfEven x.coefficient (10 ^ k) < 10 ^ (j + 1) := by
    have nearest := roundHalfEven_le x.coefficient (10 ^ k)
    calc roundHalfEven x.coefficient (10 ^ k) ≤ 10 ^ j := Nat.le_trans nearest quotient
      _ < 10 ^ (j + 1) := Nat.pow_lt_pow_succ (by decide)
  have fits : ¬ j + 1 < Decimal.precision ⟨roundHalfEven x.coefficient (10 ^ k), -precision⟩ :=
    Nat.not_lt.mpr (Digits.length_decimal_le (Nat.succ_pos j) carried)
  have size : (((Digits.decimal x.whole).length : Int) + precision + 1).toNat = j + 1 := by omega
  have shift : (-precision - -(x.places : Int)).toNat = k := by omega
  have higher : ¬ -precision ≤ -(x.places : Int) := by omega
  simp only [Decimal.quantize, size, shift, if_neg higher, if_neg fits, dropped, Int.toNat_natCast]

theorem places_rounded (x : FixedPoint) (precision : Int) :
    (x.rounded precision).places = precision.toNat := by
  unfold rounded
  split <;> rfl

/-- A carry adds no more than one to the part before the point. -/
theorem whole_rounded_le (x : FixedPoint) (p : Nat) : (x.rounded p).whole ≤ x.whole + 1 := by
  unfold rounded whole
  split
  · next enough =>
    obtain ⟨k, more⟩ : ∃ k, p = x.places + k := ⟨p - x.places, by omega⟩
    have unit : 0 < 10 ^ k := Nat.pow_pos (by decide)
    simp only [more, Int.toNat_natCast, Nat.add_sub_cancel_left, Nat.pow_add,
      Nat.mul_div_mul_right _ _ unit]
    exact Nat.le_succ _
  · next other =>
    obtain ⟨k, fewer⟩ : ∃ k, x.places = p + k := ⟨x.places - p, by omega⟩
    have dropped : ((x.places : Int) - p).toNat = k := by omega
    have front : (-(p : Int)).toNat = 0 := by omega
    have unit : 0 < 10 ^ p := Nat.pow_pos (by decide)
    simp only [dropped, front, Int.toNat_natCast, Nat.pow_zero, Nat.mul_one]
    calc roundHalfEven x.coefficient (10 ^ k) / 10 ^ p
        ≤ (x.coefficient / 10 ^ k + 10 ^ p) / 10 ^ p :=
          Nat.div_le_div_right (Nat.le_trans (roundHalfEven_le _ _) (Nat.add_le_add_left unit _))
      _ = x.coefficient / 10 ^ x.places + 1 := by
          rw [Nat.add_div_right _ unit, Nat.div_div_eq_div_mul, ← Nat.pow_add, Nat.add_comm k,
            ← fewer]

/-- A decimal has no more places than its exponent says, and no more digits before the point than
the coefficient with the zeros behind it. -/
theorem ofDecimal_le (x : Decimal) :
    (ofDecimal x).places ≤ (-x.exponent).toNat ∧
      (ofDecimal x).whole ≤ x.coefficient * 10 ^ x.exponent.toNat := by
  unfold ofDecimal
  split
  · exact ⟨Nat.zero_le _, Nat.div_le_self _ _⟩
  · obtain ⟨fewer, same⟩ := trim_eq x.coefficient (-x.exponent).toNat
    have unit (k : Nat) : 0 < 10 ^ k := Nat.pow_pos (by decide)
    refine ⟨fewer, ?_⟩
    have least := Nat.le_mul_of_pos_right (trim x.coefficient (-x.exponent).toNat).coefficient
      (unit ((-x.exponent).toNat - (trim x.coefficient (-x.exponent).toNat).places))
    rw [same] at least
    exact Nat.le_trans (Nat.le_trans (Nat.div_le_self _ _) least)
      (Nat.le_mul_of_pos_right _ (unit _))

/-- Where the unit is not too small, rounding by decimal arithmetic is rounding, between writing the
whole part and reading that of the outcome. -/
theorem quantized_eq {x : FixedPoint} {precision : Int}
    (enough : -((Digits.decimal x.whole).length : Int) ≤ precision) (low : precision ≤ 1000026) :
    x.quantized precision =
      if x.places ≤ precision then .ok (x.rounded precision)
      else (do
        let _ ← (Digits.written Digits.limit x.whole).mapError .digits
        let _ ← (Digits.read Digits.limit (Digits.decimal (x.rounded precision).whole)).mapError
          .digits
        pure (x.rounded precision)) := by
  unfold quantized
  split
  · rfl
  · next other =>
    cases written : Digits.written Digits.limit x.whole with
    | error e => rfl
    | ok run =>
      obtain ⟨before, rfl⟩ := Digits.written_eq_ok_iff.mp written
      have few := Digits.length_decimal_le Digits.limit_pos before
      have short : Digits.limit = 4300 := rfl
      have room : FixedPoint.room (Digits.decimal x.whole) precision =
          .ok (((Digits.decimal x.whole).length : Int) + precision + 1).toNat := if_neg (by omega)
      have unit : DecimalLimits.common.unit (-precision) = .ok (-precision) := by
        have least : DecimalLimits.common.tiny = -1000026 := rfl
        have greatest : DecimalLimits.common.greatest = 999999 := rfl
        have digits : DecimalLimits.common.precision = 28 := rfl
        rw [DecimalLimits.unit, if_neg (by omega), if_neg (by omega), Int.max_eq_left (by omega)]
      have same : x.rounded precision =
          ⟨roundHalfEven x.coefficient (10 ^ (x.places - precision).toNat) *
            10 ^ (-precision).toNat, (- -precision).toNat⟩ := by
        rw [rounded, if_neg other, Int.neg_neg]
      rw [same]
      simp only [room, unit, quantize_eq (by omega : precision < x.places) enough,
        Except.mapError_ok, bind, Except.bind]

/-- What rounding by decimal arithmetic needs where there is something to round: the whole part is
written and read, and the unit is not too small for it. -/
structure Roundable (x : FixedPoint) (precision : Int) : Prop where
  before : x.whole < 10 ^ Digits.limit
  unit : precision ≤ 1000026
  after : (x.rounded precision).whole < 10 ^ Digits.limit

theorem quantized_of_roundable {x : FixedPoint} {precision : Int}
    (enough : -((Digits.decimal x.whole).length : Int) ≤ precision)
    (roundable : x.Roundable precision) : x.quantized precision = .ok (x.rounded precision) := by
  have written := Digits.written_eq_ok_iff.mpr ⟨roundable.before, rfl⟩
  have read := Digits.read_eq_ok_iff.mpr
    ⟨Digits.length_decimal_le Digits.limit_pos roundable.after, rfl⟩
  rw [quantized_eq enough roundable.unit, written, read]
  split <;> rfl

/-- Where the unit is not too small, there is no other outcome than the rounded number. -/
theorem quantized_sound {x y : FixedPoint} {precision : Int}
    (enough : -((Digits.decimal x.whole).length : Int) ≤ precision) (low : precision ≤ 1000026)
    (ok : x.quantized precision = .ok y) : y = x.rounded precision := by
  rw [quantized_eq enough low] at ok
  split at ok
  · exact (Except.ok.inj ok).symm
  · simp only [Except.bind_eq_ok] at ok
    obtain ⟨_, _, _, _, made⟩ := ok
    exact (Except.ok.inj made).symm

/-- A unit that is too small is replaced by the least one there is, or refused. -/
theorem quantized_low {x y : FixedPoint} {precision : Int} (fewer : precision < x.places)
    (low : 1000026 < precision) (ok : x.quantized precision = .ok y) : y.places = 1000026 := by
  simp only [quantized, if_neg (by omega : ¬ (x.places : Int) ≤ precision), Except.bind_eq_ok,
    Except.mapError_eq_ok] at ok
  obtain ⟨_, _, _, _, unit, unitOk, z, _, _, _, made⟩ := ok
  have least : DecimalLimits.common.tiny = -1000026 := rfl
  have places := congrArg FixedPoint.places (Except.ok.inj made)
  unfold DecimalLimits.unit at unitOk
  split at unitOk
  · cases unitOk
  · split at unitOk
    · cases unitOk
    · have exponent := Except.ok.inj unitOk
      simp only at places
      omega

/-- Rounding by decimal arithmetic needs no more, and fails or goes wrong without it. -/
theorem quantized_eq_rounded_iff {x : FixedPoint} {precision : Int}
    (enough : -((Digits.decimal x.whole).length : Int) ≤ precision) :
    x.quantized precision = .ok (x.rounded precision) ↔
      x.places ≤ precision ∨ x.Roundable precision := by
  constructor
  · intro ok
    by_cases missing : x.places ≤ precision
    · exact Or.inl missing
    · right
      have low : precision ≤ 1000026 := by
        refine Int.not_lt.mp fun low => ?_
        have places := quantized_low (by omega) low ok
        rw [places_rounded] at places
        omega
      rw [quantized_eq enough low, if_neg missing] at ok
      simp only [Except.bind_eq_ok, Except.mapError_eq_ok] at ok
      obtain ⟨_, written, _, read, _⟩ := ok
      exact ⟨(Digits.written_eq_ok_iff.mp written).1, low,
        Nat.lt_of_lt_of_le (Digits.lt_pow_length_decimal _)
          (Nat.pow_le_pow_right (by decide) (Digits.read_eq_ok_iff.mp read).1)⟩
  · rintro (missing | roundable)
    · exact if_pos missing
    · exact quantized_of_roundable enough roundable

end FixedPoint

end Numeral
