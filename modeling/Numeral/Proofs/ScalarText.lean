import Numeral.Proofs.DecimalText
import Numeral.Proofs.FloatWriting
import Numeral.Proofs.PlainNumbers
import Numeral.Proofs.SignificantDigits

namespace Numeral

namespace Scientific

/-- The number that is written. -/
def value (t : Scientific) : ℚ :=
  (if t.sign = some true then -1 else 1) *
    ((t.whole.value + Digits.value (t.places.getD []) / 10 ^ (t.places.getD []).length) *
      10 ^ t.exponent)

theorem abs_value (t : Scientific) : |t.value| = t.decimal.value := by
  have sign : |(if t.sign = some true then -1 else 1 : ℚ)| = 1 := by
    split
    · rw [abs_neg, abs_one]
    · exact abs_one
  have magnitude : (0 : ℚ) ≤ (t.whole.value +
      Digits.value (t.places.getD []) / 10 ^ (t.places.getD []).length) * 10 ^ t.exponent := by
    positivity
  rw [value, abs_mul, sign, one_mul, abs_of_nonneg magnitude, decimal, Decimal.value,
    Digits.value_append, zpow_sub₀ (by norm_num), zpow_natCast]
  push_cast
  field_simp

/-- As long as there are few digits, and the last one does not stand too low, the limits hold the
number that is written. -/
theorem represents_of_length_le {limits : DecimalLimits} {t : Scientific}
    (few : (t.whole ++ t.places.getD []).length ≤ limits.precision)
    (low : limits.tiny ≤ t.decimal.exponent) : limits.Represents |t.value| :=
  ⟨t.decimal, (Digits.value_lt _).trans_le (Nat.pow_le_pow_right (by decide) few), low, t.abs_value⟩

end Scientific

/-- What is left of the number `q` within limits: the nearest number for which there are digits, an
even last one in a tie, written without a trailing zero. Only what the limits hold is left as it
is. -/
structure FixedPoint.Keeps (m : FixedPoint) (limits : DecimalLimits) (q : ℚ) : Prop where
  nearest : RoundsHalfEven q (-limits.lastPower q) m.value
  exact : (m.whole : ℚ) + Digits.value m.fraction / 10 ^ m.fraction.length = q ↔
    limits.Represents q
  trailing : ∀ d, m.fraction.getLast? = some d → d ≠ 0

theorem FixedPoint.Keeps.ofDecimal {limits : DecimalLimits} {q : ℚ} {y : Decimal} (sign : 0 ≤ q)
    (nearest : RoundsHalfEven q (-limits.lastPower q) y.value) :
    (FixedPoint.ofDecimal y).Keeps limits q := by
  rw [← value_ofDecimal] at nearest
  refine ⟨nearest, ?_, fun d last => getLast?_fraction_ofDecimal last⟩
  rw [value_eq_parts, nearest.eq_self_iff, neg_neg, DecimalLimits.represents_iff sign]

/-- A floating point scalar that knows no integer in its place, and is none, stands for the finite
number `x` and has the text `t`. -/
structure Facets.Shows (f : Facets Datum) (x : Binary64) (t : Scientific) : Prop where
  family : f.scalarFamily = some "f"
  indexless : f.index = none
  other : ∀ n, f.number ≠ some (.int n)
  float : f.toFloat = .ok (.float x)
  finite : x.isFinite = true
  text : f.ownText = .ok (String.ofList t.text)
  within : DecimalText.textLimits.Holds t.decimal

namespace Datum

variable {f : Facets Datum} {x : Binary64} {t : Scientific}

/-- What is kept of a text with no more than 4300 digits before the point. -/
theorem magnitudeOfText_finite {d y : Decimal} (rounded : scalarLimits.round d = .ok y)
    (few : y.leading ≤ 4299) : magnitudeOfText (.finite d) = .ok y := by
  have limit : Digits.limit = 4300 := rfl
  have short : ¬ Digits.limit < (y.leading + 1).toNat := by omega
  simp only [magnitudeOfText, DecimalText.within, rounded, bind, Except.bind, Except.map,
    Except.mapError_ok, if_neg short]
  rfl

/-- A floating point scalar is written with the digits that are kept of its text. -/
theorem toNumber_of_text {d y : Decimal} {text : String} (family : f.scalarFamily = some "f")
    (indexless : f.index = Option.none) (other : ∀ n, f.number ≠ some (.int n))
    (float : f.toFloat = .ok (.float x)) (finite : x.isFinite = true) (own : f.ownText = .ok text)
    (read : DecimalText.read? text = some (.finite d)) (kept : magnitudeOfText (.finite d) = .ok y)
    (allowBool : Bool) :
    toNumber (.scalar f) allowBool =
      .ok { negative := x.isNegative, magnitude := .ofDecimal y, isFloat := true } := by
  have found : toStandard (.scalar f) allowBool = .ok (.float x) :=
    (Facets.toStandard_of_own family other indexless).trans float
  have plain : toPlain (.scalar f) allowBool = .ok (.float x) := by
    rw [toPlain, found]
    rfl
  have magnitude : magnitudeOf (.scalar f) x = .ok y := by
    simp only [magnitudeOf, if_pos family, own, read, bind, Except.bind]
    exact kept
  simp only [toNumber, plain, magnitude, finite, if_true, bind, Except.bind,
    Number.ofFloat_of_isFinite finite]
  rfl

theorem toNumber_of_shows {y : Decimal} (shows : f.Shows x t)
    (rounded : scalarLimits.round t.decimal = .ok y) (few : y.leading ≤ 4299) (allowBool : Bool) :
    toNumber (.scalar f) allowBool =
      .ok { negative := x.isNegative, magnitude := .ofDecimal y, isFloat := true } :=
  toNumber_of_text shows.family shows.indexless shows.other shows.float shows.finite shows.text
    (DecimalText.read?_text shows.within) (magnitudeOfText_finite rounded few) allowBool

/-- The magnitude of a floating point scalar is known by the number that its text denotes, as long
as this has fewer than 4300 digits before the point. Two scalars whose texts denote the same
magnitude are written alike. It is the magnitude of the text if there are no more digits than the
limits hold, and else the nearest one that they hold. Without a precision it is written in full. -/
theorem toNumber_ownText (t : Scientific) (below : |t.value| < 10 ^ 4299) :
    ∃ m : FixedPoint, m.Keeps scalarLimits |t.value| ∧
      ∀ (f : Facets Datum) (x : Binary64) (u : Scientific), f.Shows x u → |u.value| = |t.value| →
        (∀ allowBool, toNumber (.scalar f) allowBool =
          .ok { negative := x.isNegative, magnitude := m, isFloat := true }) ∧
        ∀ (s : Style) (o : Overrides), o.precisionFor s = .ok Option.none →
          ∃ (whole : Digits s.radix.base) (out : String),
            renderUnpadded s (.scalar f) o = .ok out ∧
              s.Denotes (o.spacingFor s) x.isNegative m.value whole m.fraction out.toList := by
  have room : ∀ u : Scientific, |u.value| = |t.value| →
      u.decimal.value < 10 ^ (4299 : ℤ) := by
    intro u same
    rw [← u.abs_value, same]
    calc |t.value| < 10 ^ 4299 := below
      _ = 10 ^ (4299 : ℤ) := (zpow_ofNat _ _).symm
  have digits : 0 < scalarLimits.precision := by decide
  have least : scalarLimits.tiny ≤ 4299 := by decide
  have within : 4299 ≤ scalarLimits.greatest := by decide
  obtain ⟨y, _, _, nearest⟩ :=
    DecimalLimits.round_roundsHalfEven digits least (by decide) within (room t rfl)
  rw [← t.abs_value] at nearest
  refine ⟨.ofDecimal y, .ofDecimal (abs_nonneg _) nearest, fun f x u shows same => ?_⟩
  -- Another text of the same magnitude is rounded by itself; the nearest number is the same one.
  obtain ⟨y', rounded', few, nearest'⟩ :=
    DecimalLimits.round_roundsHalfEven digits least (by decide) within (room u same)
  rw [← u.abs_value, same] at nearest'
  have number : ∀ allowBool, toNumber (.scalar f) allowBool =
      .ok { negative := x.isNegative, magnitude := .ofDecimal y, isFloat := true } := by
    intro allowBool
    rw [toNumber_of_shows shows rounded' few,
      FixedPoint.ofDecimal_eq_of_value_eq (nearest'.unique nearest)]
  refine ⟨number, fun s o settled => ?_⟩
  have written := renderUnpadded_eq settled (number false)
  have denotes := s.denotes_pieces { precision := Option.none, spacing := o.spacingFor s }
    (n := { negative := x.isNegative, magnitude := .ofDecimal y, isFloat := true }) rfl
  rw [Margin.pad_zero] at written
  exact ⟨_, _, written, by rwa [String.toList_ofList]⟩

/-- A third in extended precision keeps its 20 digits, and has the same ones in scientific form. -/
theorem toNumber_ownText_third :
    let x : Binary64 := ⟨0x3FD5555555555555⟩
    let t : Scientific :=
      { whole := [0], places := some (List.replicate 19 3 ++ [4]), nonempty := by decide }
    let u : Scientific :=
      { whole := [3], places := some (List.replicate 18 3 ++ [4]),
        power := some { sign := some true, digits := [0, 1], nonempty := by decide },
        nonempty := by decide }
    let f : Facets Datum :=
      { kind := "Extended", shown := .ok "extended", text := some (.ok "0.33333333333333333334"),
        family := some "f", float := some (.ok x) }
    let g : Facets Datum := { f with text := some (.ok "3.3333333333333333334e-01") }
    |t.value| < 10 ^ 4299 ∧ f.Shows x t ∧ g.Shows x u ∧ |u.value| = |t.value| ∧
      ∃ n : Number, toNumber (.scalar f) false = .ok n ∧ toNumber (.scalar g) true = .ok n ∧
        (n.magnitude.whole : ℚ) +
          Digits.value n.magnitude.fraction / 10 ^ n.magnitude.fraction.length = |t.value| := by
  intro x t u f g
  have fShows : f.Shows x t := ⟨rfl, rfl, nofun, rfl, by decide, rfl, by decide +kernel⟩
  have gShows : g.Shows x u := ⟨rfl, rfl, nofun, rfl, by decide, rfl, by decide +kernel⟩
  have written : t.decimal = ⟨33333333333333333334, -20⟩ := rfl
  have written' : u.decimal = ⟨33333333333333333334, -20⟩ := rfl
  have same : |u.value| = |t.value| := by
    rw [u.abs_value, t.abs_value, written, written']
  have below : |t.value| < 10 ^ 4299 := by
    have small : |t.value| < 1 := by
      rw [t.abs_value, written, Decimal.value]
      norm_num
    exact small.trans (one_lt_pow₀ (by norm_num) (by decide))
  obtain ⟨m, kept, alike⟩ := toNumber_ownText t below
  have held : scalarLimits.Represents |t.value| :=
    Scientific.represents_of_length_le (by decide) (by decide)
  exact ⟨below, fShows, gShows, same, _, (alike f x t fShows rfl).1 false,
    (alike g x u gShows same).1 true, kept.exact.mpr held⟩

/-- The shortest text of a third in quadruple precision has 34 digits, of which 28 are kept. -/
theorem toNumber_ownText_long :
    let x : Binary64 := ⟨0x3FD5555555555555⟩
    let t : Scientific :=
      { whole := [0], places := some (List.replicate 34 3), nonempty := by decide }
    let f : Facets Datum :=
      { kind := "Quadruple", shown := .ok "quadruple",
        text := some (.ok "0.3333333333333333333333333333333333"), family := some "f",
        float := some (.ok x) }
    |t.value| < 10 ^ 4299 ∧ f.Shows x t ∧
      ∃ n : Number, toNumber (.scalar f) false = .ok n ∧
        n.magnitude.whole = 0 ∧ n.magnitude.fraction = List.replicate 28 3 ∧
        (n.magnitude.whole : ℚ) +
          Digits.value n.magnitude.fraction / 10 ^ n.magnitude.fraction.length ≠ |t.value| := by
  intro x t f
  have shows : f.Shows x t := ⟨rfl, rfl, nofun, rfl, by decide, rfl, by decide +kernel⟩
  have written : t.decimal = ⟨3333333333333333333333333333333333, -34⟩ := rfl
  have rounded : scalarLimits.round t.decimal = .ok ⟨3333333333333333333333333333, -28⟩ := by
    decide +kernel
  refine ⟨?_, shows, _, toNumber_of_shows shows rounded (by decide +kernel) false, ?_⟩
  · have small : |t.value| < 1 := by
      rw [t.abs_value, written, Decimal.value]
      norm_num
    exact small.trans (one_lt_pow₀ (by norm_num) (by decide))
  · refine ⟨by decide +kernel, by decide +kernel, ?_⟩
    rw [FixedPoint.value_eq_parts, FixedPoint.value_ofDecimal, t.abs_value, written,
      Decimal.value, Decimal.value]
    norm_num

end Datum

end Numeral
