import Numeral.Proofs.FloatText
import Numeral.Proofs.Padding

namespace Numeral

/-- A text of the number `q` in a style. It is written as its sign, the base marker, its whole part
in the base of the style, grouped if the style says so, and the point with further decimal places
if there are any. Both parts read back give `q`. -/
structure Style.Denotes (s : Style) (spacing : Spacing) (negative : Bool) (q : ℚ)
    (whole : Digits s.radix.base) (fraction : Digits 10) (text : List Char) : Prop where
  written : text = (if negative then ['-'] else if s.sign = .always then ['+'] else []) ++
    s.marker ++
    (match s.separator.mark? with
      | some mark => group mark spacing.size (whole.map (digitChar s.radix.ten))
      | none => whole.map (digitChar s.radix.ten)) ++
    (if fraction = [] then [] else s.point :: fraction.chars)
  nonempty : whole ≠ []
  leading : ∀ d rest, whole = d :: rest → d.val = 0 → rest = []
  integral : whole.value = ⌊q⌋₊
  parts : (whole.value : ℚ) + Digits.value fraction / 10 ^ fraction.length = q

/-- Only zero has a leading zero. -/
theorem Digits.leading_ofNat {b : Nat} (base : 2 ≤ b) {n : Nat} {d : Fin b} {rest : Digits b}
    (written : ofNat base n = d :: rest) (zero : d.val = 0) : rest = [] := by
  rcases Nat.eq_zero_or_pos n with rfl | positive
  · rw [ofNat_of_lt base (by omega)] at written
    exact (List.cons.inj written).2.symm
  · obtain ⟨first, others, same, nonzero⟩ := head_ofNat base positive
    rw [written] at same
    rw [(List.cons.inj same).1] at zero
    exact absurd zero nonzero.ne'

namespace FixedPoint

theorem fraction_eq_nil_iff (x : FixedPoint) : x.fraction = [] ↔ x.places = 0 := by
  rw [← List.length_eq_zero_iff, length_fraction]

/-- The last place is the last digit of the coefficient. -/
theorem getLast?_fraction {x : FixedPoint} {d : Digit} (last : x.fraction.getLast? = some d) :
    d.val = x.coefficient % 10 := by
  obtain ⟨front, split⟩ := List.getLast?_eq_some_iff.mp last
  have length := congrArg List.length split
  rw [length_fraction, List.length_append, List.length_singleton] at length
  have value := value_fraction x
  rw [split, Digits.value_append, Digits.value_singleton, List.length_singleton, length] at value
  have unit : (10 : Nat) ^ 1 ∣ 10 ^ (front.length + 1) := Nat.pow_dvd_pow 10 (Nat.le_add_left 1 _)
  have digit := congrArg (· % 10 ^ 1) value
  simp only [Nat.mod_mod_of_dvd _ unit] at digit
  have small := d.isLt
  omega

theorem getLast?_fraction_ofDecimal {x : Decimal} {d : Digit}
    (last : (ofDecimal x).fraction.getLast? = some d) : d ≠ 0 := by
  have some : 0 < (ofDecimal x).places := by
    refine Nat.pos_of_ne_zero fun none => ?_
    rw [(ofDecimal x).fraction_eq_nil_iff.mpr none] at last
    cases last
  have digit := getLast?_fraction last
  rintro rfl
  exact ofDecimal_last some digit.symm

end FixedPoint

/-- The text without padding denotes the magnitude that is left after rounding. -/
theorem Style.denotes_pieces (s : Style) (m : Measures) {n : Number} (digits : n.special = none) :
    let x := (m.precision.elim n fun p => n.rounded p).magnitude
    s.Denotes m.spacing n.negative x.value (Digits.ofNat s.radix.two_le_base x.whole) x.fraction
      (s.pieces m n).text := by
  intro x
  have whole : Digits.value (Digits.ofNat s.radix.two_le_base x.whole) = x.whole :=
    Digits.value_ofNat _ _
  constructor
  case written =>
    have pieces : (s.pieces m n).text = (s.sign.text n.negative ++ s.marker) ++
        (s.integral m.spacing x.whole ++
          if x.places = 0 then [] else s.point :: x.fraction.chars) := by
      simp only [Style.pieces, digits, Pieces.text, x]
    rw [pieces, ← List.append_assoc]
    simp only [x.fraction_eq_nil_iff]
    rfl
  case nonempty => exact Digits.ofNat_ne_nil _ _
  case leading => exact fun d rest written zero => Digits.leading_ofNat _ written zero
  case integral => rw [whole, x.floor_value]
  case parts => rw [whole, x.value_eq_parts]

namespace Binary64

theorem significand_eq_zero_iff (x : Binary64) : x.significand = 0 ↔ x.isZero = true := by
  have normal : (2 : Nat) ^ 52 + x.fraction ≠ 0 := by omega
  simp only [significand, isZero, Bool.and_eq_true, decide_eq_true_eq]
  by_cases subnormal : x.field = 0
  · simp only [subnormal, if_true, true_and]
  · simp only [subnormal, if_false, false_and, normal]

/-- A finite number counts as negative exactly if it is below zero; no zero is. -/
theorem isNegative_iff {x : Binary64} (finite : x.isFinite = true) :
    x.isNegative = true ↔ x.value < 0 := by
  have unit : (0 : ℚ) < 2 ^ x.exponent := zpow_pos zero_lt_two _
  simp only [isNegative, not_special finite, Bool.not_false, Bool.and_true, Bool.and_eq_true,
    Bool.not_eq_true']
  by_cases zero : x.significand = 0
  · have nothing : x.isZero = true := x.significand_eq_zero_iff.mp zero
    have value : x.value = 0 := by
      rw [Binary64.value, zero, Nat.cast_zero, zero_mul, mul_zero]
    rw [nothing, value]
    exact ⟨fun negative => absurd negative.2 (by decide), fun below => absurd below (lt_irrefl 0)⟩
  · have something : x.isZero = false := by
      rw [Bool.eq_false_iff]
      exact fun nothing => zero (x.significand_eq_zero_iff.mpr nothing)
    have magnitude : (0 : ℚ) < x.significand * 2 ^ x.exponent :=
      mul_pos (by exact_mod_cast Nat.pos_of_ne_zero zero) unit
    rw [something, Binary64.value]
    cases x.signBit with
    | true =>
      simp only [if_true, true_and]
      exact ⟨fun _ => by linarith, fun _ => trivial⟩
    | false =>
      simp only [Bool.false_eq_true, if_false, false_and, false_iff]
      linarith

end Binary64

theorem Number.ofFloat_of_isFinite {x : Binary64} (finite : x.isFinite = true)
    (magnitude : Decimal) :
    ofFloat x magnitude = { negative := x.isNegative, magnitude := .ofDecimal magnitude,
                            isFloat := true } := by
  simp only [ofFloat, Binary64.not_special finite, Bool.false_eq_true, if_false]

namespace Datum

/-- A finite floating point number is written with the digits of its shortest decimal. -/
theorem toNumber_float {x : Binary64} (finite : x.isFinite = true) {value : Datum}
    (float : value = .float x ∨ ∃ kind, value = .floatLike kind x) :
    value.toNumber false = .ok { negative := x.isNegative, magnitude := .ofDecimal x.shortest,
                                 isFloat := true } := by
  have made : (if x.isFinite then pure (.ofFloat x x.shortest) else pure (.ofFloat x ⟨0, 0⟩)) =
      (.ok { negative := x.isNegative, magnitude := .ofDecimal x.shortest, isFloat := true } :
        Except ConversionError Number) := by
    rw [if_pos finite, Number.ofFloat_of_isFinite finite]
    rfl
  rcases float with rfl | ⟨kind, rfl⟩
  · exact made
  · exact made

/-- A finite floating point number is written as its shortest decimal, rounded to a settled
precision. Without one the places are those that the decimal needs. -/
theorem render_float_denotes {s : Style} {o : Overrides} {x : Binary64} {value : Datum}
    {precision : Option Nat} (finite : x.isFinite = true)
    (float : value = .float x ∨ ∃ kind, value = .floatLike kind x)
    (settled : o.precisionFor s = .ok precision) :
    ∃ (d : Decimal) (q : ℚ) (whole : Digits s.radix.base) (fraction : Digits 10) (out : String),
      DecimalText.read? (String.ofList x.text) = some (.finite d) ∧
      Datum.renderUnpadded s value o = .ok out ∧
      s.Denotes (o.spacingFor s) (x.value < 0) q whole fraction out.toList ∧
      match precision with
      | some p => RoundsHalfEven d.value p q ∧ fraction.length = p
      | .none => q = d.value ∧ (∀ last, fraction.getLast? = some last → last ≠ 0) ∧
        (fraction = [] ↔ ∃ n : ℤ, d.value = n) := by
  obtain ⟨d, read, same⟩ := Binary64.read_text finite
  let n : Number := { negative := x.isNegative, magnitude := .ofDecimal x.shortest,
                      isFloat := true }
  let m : Measures := { precision, spacing := o.spacingFor s }
  have number : value.toNumber false = .ok n := toNumber_float finite float
  have written := renderUnpadded_eq settled number
  rw [Margin.pad_zero] at written
  have denotes := s.denotes_pieces m (n := n) rfl
  have sign : n.negative = decide (x.value < 0) := by
    rw [Bool.eq_iff_iff, decide_eq_true_eq]
    exact Binary64.isNegative_iff finite
  rw [sign] at denotes
  refine ⟨d, _, _, _, _, read, written, by rw [String.toList_ofList]; exact denotes, ?_⟩
  cases precision with
  | some p =>
    have nearest := n.magnitude.rounded_roundsHalfEven p
    have length := (n.magnitude.rounded p).length_fraction
    rw [FixedPoint.places_rounded, Int.toNat_natCast] at length
    rw [FixedPoint.value_ofDecimal, ← same] at nearest
    exact ⟨nearest, length⟩
  | none =>
    refine ⟨?_, fun last ending => ?_, ?_⟩
    · rw [same]
      exact FixedPoint.value_ofDecimal x.shortest
    · exact FixedPoint.getLast?_fraction_ofDecimal ending
    · rw [FixedPoint.fraction_eq_nil_iff, same]
      exact FixedPoint.places_ofDecimal_eq_zero_iff x.shortest

/-- A tie goes to the even digit, carries over every place and adds a hexadecimal digit. -/
theorem render_float_carry :
    let s : Style := { alternate := true, precision := .deferred, radix := .hexUpper,
                       separator := .char '_', spacing := ⟨4, by decide⟩ }
    let o : Overrides := { precision := some 3 }
    let x : Binary64 := ⟨0xC0EFFFFFFBE76C8B⟩
    x.text = "-65535.9995".toList ∧
      Datum.renderUnpadded s (.float x) o = .ok "-0x1_0000.000" ∧
      ∃ (d : Decimal) (q : ℚ) (whole : Digits 16) (fraction : Digits 10),
        DecimalText.read? (String.ofList x.text) = some (.finite d) ∧
        s.Denotes (o.spacingFor s) (x.value < 0) q whole fraction "-0x1_0000.000".toList ∧
        RoundsHalfEven d.value 3 q ∧ fraction.length = 3 := by
  intro s o x
  have finite : x.isFinite = true := by decide
  have settled : o.precisionFor s = .ok (some 3) := rfl
  have written : Datum.renderUnpadded s (.float x) o = .ok "-0x1_0000.000" := by
    rw [renderUnpadded_eq settled (toNumber_float finite (Or.inl rfl))]
    exact congrArg Except.ok (by decide +kernel)
  obtain ⟨d, q, whole, fraction, out, read, made, denotes, nearest, length⟩ :=
    render_float_denotes finite (Or.inl rfl) settled
  rw [written] at made
  cases made
  exact ⟨by decide +kernel, written, d, q, whole, fraction, read, denotes, nearest, length⟩

end Datum

end Numeral
