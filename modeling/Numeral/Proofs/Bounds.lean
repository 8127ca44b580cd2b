import Numeral.Proofs.FloatText
import Numeral.Proofs.Guards

namespace Numeral

/-- Far enough from the limits of digits and of places to be rounded, a carry included, and written. -/
structure FixedPoint.Small (m : FixedPoint) : Prop where
  whole : m.whole + 1 < 10 ^ Digits.limit
  places : m.places ≤ 1000026

/-- The bounds of a shortest decimal leave room below the limits. -/
theorem Binary64.Moderate.small {d : Decimal} (moderate : Moderate d) :
    (FixedPoint.ofDecimal d).Small := by
  obtain ⟨k, few, below⟩ := moderate.coefficient
  have lower := moderate.lower
  have upper := moderate.upper
  obtain ⟨places, whole⟩ := FixedPoint.ofDecimal_le d
  have front : d.coefficient * 10 ^ d.exponent.toNat < 10 ^ (k + 343) :=
    mul_pow_lt below (by decide) le_rfl (by omega)
  have room : 10 ^ (k + 343) < 10 ^ Digits.limit :=
    Nat.pow_lt_pow_right (by decide) (lt_of_le_of_lt (Nat.add_le_add_right few 343) (by decide))
  exact ⟨by omega, by omega⟩

namespace Number

variable {n : Number}

theorem rounds_of_small (small : n.magnitude.Small) : n.Rounds := by
  intro p
  by_cases missing : n.magnitude.places ≤ p
  · exact Or.inl missing
  · have few := small.whole
    have low := small.places
    exact Or.inr ⟨by omega, by omega, (n.magnitude.whole_rounded_le p).trans_lt few⟩

theorem whole_settled_lt (small : n.magnitude.Small) (precision : Option Nat) :
    (n.settled precision).magnitude.whole < 10 ^ Digits.limit := by
  cases precision with
  | none => exact Nat.lt_of_succ_lt small.whole
  | some p =>
    simp only [settled, Option.elim_some, rounded]
    split
    · exact (n.magnitude.whole_rounded_le p).trans_lt small.whole
    · exact Nat.lt_of_succ_lt small.whole

theorem whole_settled_ofInt (i : Int) (precision : Option Nat) :
    ((ofInt i).settled precision).magnitude.whole = i.natAbs := by
  cases precision with
  | none => exact Nat.div_one _
  | some p => exact Nat.div_one _

/-- A floating point number has the magnitude that it is given, or none. -/
theorem magnitude_ofFloat (x : Binary64) (y : Decimal) :
    (ofFloat x y).magnitude = ⟨0, 0⟩ ∨ (ofFloat x y).magnitude = .ofDecimal y := by
  unfold ofFloat
  split
  · exact Or.inl rfl
  · split
    · exact Or.inl rfl
    · exact Or.inr rfl

theorem small_ofFloat (x : Binary64) {y : Decimal} (moderate : Binary64.Moderate y) :
    (ofFloat x y).magnitude.Small := by
  rcases magnitude_ofFloat x y with nothing | given
  · rw [nothing]
    exact ⟨Nat.one_lt_pow (by decide) (by decide), Nat.zero_le _⟩
  · exact given ▸ moderate.small

end Number

/-- Small numbers are written in every base. -/
theorem Style.not_overlong_of_small {s : Style} {m : Measures} {n : Number}
    (small : n.magnitude.Small) : ¬ s.Overlong m n := fun overlong =>
  Nat.not_lt.mpr overlong.large (Number.whole_settled_lt small m.precision)

theorem Style.overlong_ofInt_iff {s : Style} {m : Measures} {i : Int} :
    s.Overlong m (.ofInt i) ↔ s.radix = .decimal ∧ 10 ^ Digits.limit ≤ i.natAbs := by
  constructor
  · rintro ⟨_, radix, large⟩
    exact ⟨radix, by rwa [Number.whole_settled_ofInt] at large⟩
  · rintro ⟨radix, large⟩
    exact ⟨rfl, radix, by rwa [Number.whole_settled_ofInt]⟩

/-- What is left of a decimal within limits has no place below theirs. -/
theorem DecimalLimits.tiny_le_of_round {limits : DecimalLimits} {x y : Decimal}
    (least : limits.tiny ≤ 0) (rounded : limits.round x = .ok y) : limits.tiny ≤ y.exponent := by
  simp only [round] at rounded
  split at rounded
  · cases rounded
    exact least
  · split at rounded
    · cases rounded
      exact (le_max_left _ _).trans (le_max_right _ _)
    · cases rounded

/-- The integers and floating point numbers themselves, those of a derived kind among them. -/
inductive Datum.IsNumber : Datum → Prop
  | int (n : Int) : IsNumber (.int n)
  | intLike (kind : String) (n : Int) : IsNumber (.intLike kind n)
  | float (x : Binary64) : IsNumber (.float x)
  | floatLike (kind : String) (x : Binary64) : IsNumber (.floatLike kind x)

/-- An integer with more digits in base ten than can be written. -/
def Datum.Exceeds (value : Datum) : Prop :=
  ∃ i, value.int? = some i ∧ 10 ^ Digits.limit ≤ i.natAbs

namespace Datum

variable {value : Datum}

/-- The digits that are kept of a text have no place below those of decimal arithmetic. -/
theorem tiny_le_of_magnitudeOfText {text : DecimalText} {y : Decimal}
    (read : magnitudeOfText text = .ok y) : scalarLimits.tiny ≤ y.exponent := by
  simp only [magnitudeOfText, Except.bind_eq_ok, Except.mapError_eq_ok] at read
  obtain ⟨kept, within, found⟩ := read
  cases kept with
  | infinite | nan => cases found
  | finite z =>
    obtain rfl : z = y := by
      simp only at found
      split at found
      · cases found
      · exact Except.ok.inj found
    cases text with
    | infinite => cases within
    | nan signaling => cases signaling <;> cases within
    | finite x =>
      cases rounded : scalarLimits.round x with
      | error e => rw [DecimalText.within, rounded] at within; cases within
      | ok w =>
        rw [DecimalText.within, rounded] at within
        cases within
        exact DecimalLimits.tiny_le_of_round (by decide) rounded

/-- A magnitude has no more places than decimal arithmetic can round to. -/
theorem places_of_magnitudeOf {x : Binary64} {y : Decimal} (found : value.magnitudeOf x = .ok y) :
    (FixedPoint.ofDecimal y).places ≤ 1000026 := by
  have shortest (same : Except.ok x.shortest = (.ok y : Except ConversionError Decimal)) :
      (FixedPoint.ofDecimal y).places ≤ 1000026 :=
    Except.ok.inj same ▸ x.moderate_shortest.small.places
  cases value with
  | scalar f =>
    simp only [magnitudeOf] at found
    split at found
    · simp only [Except.bind_eq_ok] at found
      obtain ⟨text, _, read⟩ := found
      split at read
      · have lower := tiny_le_of_magnitudeOfText read
        have least : scalarLimits.tiny = -1000026 := rfl
        have places := (FixedPoint.ofDecimal_le y).1
        omega
      · exact shortest read
    · exact shortest found
  | _ => exact shortest found

theorem places_of_toNumber {allowBool : Bool} {n : Number}
    (read : value.toNumber allowBool = .ok n) : n.magnitude.places ≤ 1000026 := by
  have float (x : Binary64) {y : Decimal} (low : (FixedPoint.ofDecimal y).places ≤ 1000026) :
      (Number.ofFloat x y).magnitude.places ≤ 1000026 := by
    rcases Number.magnitude_ofFloat x y with nothing | given
    · exact nothing ▸ Nat.zero_le _
    · exact given ▸ low
  simp only [toNumber, Except.bind_eq_ok] at read
  obtain ⟨plain, _, made⟩ := read
  cases plain with
  | int i => exact Except.ok.inj made ▸ Nat.zero_le _
  | float x =>
    simp only at made
    split at made
    · simp only [Except.bind_eq_ok] at made
      obtain ⟨y, found, made⟩ := made
      exact Except.ok.inj made ▸ float x (places_of_magnitudeOf found)
    · exact Except.ok.inj made ▸ float x (Nat.zero_le _)

/-- A floating point number has the digits of a shortest decimal, or none. -/
theorem toNumber_float_small (x : Binary64) :
    ∃ n, (if x.isFinite then .ok (.ofFloat x x.shortest) else .ok (.ofFloat x ⟨0, 0⟩) :
      Except ConversionError Number) = .ok n ∧ n.magnitude.Small := by
  split
  · exact ⟨_, rfl, Number.small_ofFloat x x.moderate_shortest⟩
  · exact ⟨_, rfl, Number.small_ofFloat x ⟨⟨0, by decide, Nat.zero_lt_one⟩, by decide, by decide⟩⟩

/-- A floating point number is never too large to be rounded and written, an integer is never
rounded. -/
theorem IsNumber.toNumber (number : value.IsNumber) :
    ∃ n, value.toNumber false = .ok n ∧ n.Rounds ∧
      ∀ (s : Style) (m : Measures), s.Overlong m n ↔ s.radix = .decimal ∧ value.Exceeds := by
  have int (d : Datum) (i : Int) (is : d.int? = some i) (s : Style) (m : Measures) :
      s.Overlong m (.ofInt i) ↔ s.radix = .decimal ∧ d.Exceeds := by
    rw [Style.overlong_ofInt_iff]
    refine and_congr_right' ⟨fun large => ⟨i, is, large⟩, fun ⟨j, same, large⟩ => ?_⟩
    obtain rfl := Option.some.inj (is.symm.trans same)
    exact large
  have float (d : Datum) (is : d.int? = Option.none) (s : Style) (m : Measures) {n : Number}
      (small : n.magnitude.Small) : s.Overlong m n ↔ s.radix = .decimal ∧ d.Exceeds := by
    refine iff_of_false (Style.not_overlong_of_small small) ?_
    rintro ⟨_, i, same, _⟩
    rw [is] at same
    cases same
  cases number with
  | int i => exact ⟨.ofInt i, rfl, fun p => Or.inl (Nat.zero_le p), int _ i rfl⟩
  | intLike kind i => exact ⟨.ofInt i, rfl, fun p => Or.inl (Nat.zero_le p), int _ i rfl⟩
  | float x | floatLike _ x =>
    obtain ⟨n, read, small⟩ := toNumber_float_small x
    exact ⟨n, read, Number.rounds_of_small small, fun s m => float _ rfl s m small⟩

end Datum

end Numeral
