import Numeral.Proofs.ScalarText

namespace Numeral

/-- A power with an integral exponent is a quotient of two natural ones, one of which is one. -/
theorem zpow_eq_div {b : ℚ} (base : b ≠ 0) (e : ℤ) : b ^ e = b ^ e.toNat / b ^ (-e).toNat := by
  rw [← zpow_natCast, ← zpow_natCast, ← zpow_sub₀ base]
  congr 1
  omega

namespace Binary64

variable {x : Binary64} {power : ℤ}

/-- The magnitude that the bits of a finite number denote. -/
def magnitude (x : Binary64) : ℚ :=
  x.significand * 2 ^ x.exponent

/-- A quarter of the distance between neighbouring magnitudes. -/
def quarter (x : Binary64) : ℚ :=
  2 ^ (x.exponent - 2)

theorem quarter_pos (x : Binary64) : 0 < x.quarter := by
  rw [quarter]
  positivity

theorem magnitude_eq_quarters (x : Binary64) : x.magnitude = 4 * x.significand * x.quarter := by
  rw [magnitude, quarter, zpow_sub₀ (by norm_num)]
  ring

/-- Brought to a common unit, numbers keep their proportions. -/
theorem scaled_eq (power e : ℤ) :
    ∃ unit : ℚ, 0 < unit ∧ ∀ c s : ℕ, ((scaled c power s e).1 : ℚ) = c * 10 ^ power * unit ∧
      ((scaled c power s e).2 : ℚ) = s * 2 ^ e * unit := by
  refine ⟨2 ^ (-e).toNat * 10 ^ (-power).toNat, by positivity, fun c s => ⟨?_, ?_⟩⟩
  · rw [scaled, zpow_eq_div (by norm_num) power]
    push_cast
    field_simp
  · rw [scaled, zpow_eq_div (by norm_num) e]
    push_cast
    field_simp

theorem scaled_lt_iff {c s : ℕ} {power e : ℤ} :
    (scaled c power s e).1 < (scaled c power s e).2 ↔ (c : ℚ) * 10 ^ power < s * 2 ^ e := by
  obtain ⟨unit, positive, scale⟩ := scaled_eq power e
  rw [← Nat.cast_lt (α := ℚ), (scale c s).1, (scale c s).2, mul_lt_mul_iff_left₀ positive]

theorem lt_scaled_iff {c s : ℕ} {power e : ℤ} :
    (scaled c power s e).2 < (scaled c power s e).1 ↔ (s : ℚ) * 2 ^ e < c * 10 ^ power := by
  obtain ⟨unit, positive, scale⟩ := scaled_eq power e
  rw [← Nat.cast_lt (α := ℚ), (scale c s).1, (scale c s).2, mul_lt_mul_iff_left₀ positive]

/-- A point below the magnitude rounds to it if it is less than a quarter of the distance to the
neighbours away. -/
theorem covers_of_near {c : ℕ} (some : 0 < x.significand) (below : c * 10 ^ power ≤ x.magnitude)
    (near : x.magnitude - x.quarter < c * 10 ^ power) : x.covers c power = true := by
  have quarter := x.quarter_pos
  have whole := x.magnitude_eq_quarters
  have high : (scaled c power (4 * x.significand + 2) (x.exponent - 2)).1 <
      (scaled c power (4 * x.significand + 2) (x.exponent - 2)).2 := by
    rw [scaled_lt_iff, ← Binary64.quarter]
    push_cast
    linarith
  -- Downward the reach is one quarter or two.
  have low (reach : ℕ) (one : 1 ≤ reach) :
      (scaled c power (4 * x.significand - reach) (x.exponent - 2)).2 <
        (scaled c power (4 * x.significand - reach) (x.exponent - 2)).1 := by
    have fewer : ((4 * x.significand - reach : ℕ) : ℚ) ≤ 4 * x.significand - 1 := by
      have natural : 4 * x.significand - reach + 1 ≤ 4 * x.significand := by omega
      have cast : ((4 * x.significand - reach : ℕ) : ℚ) + 1 ≤ 4 * x.significand := by
        exact_mod_cast natural
      linarith
    rw [lt_scaled_iff, ← Binary64.quarter]
    calc ((4 * x.significand - reach : ℕ) : ℚ) * x.quarter
        ≤ (4 * x.significand - 1) * x.quarter := mul_le_mul_of_nonneg_right fewer quarter.le
      _ = x.magnitude - x.quarter := by rw [whole, sub_mul, one_mul]
      _ < c * 10 ^ power := near
  have lower := low (if x.fraction = 0 ∧ 1 < x.field then 1 else 2) (by split <;> omega)
  change (if x.significand % 2 = 0 then decide (_ ≤ _) && decide (_ ≤ _)
    else decide (_ < _) && decide (_ < _)) = true
  split
  · rw [Bool.and_eq_true, decide_eq_true_eq, decide_eq_true_eq]
    exact ⟨lower.le, high.le⟩
  · rw [Bool.and_eq_true, decide_eq_true_eq, decide_eq_true_eq]
    exact ⟨lower, high⟩

/-- The magnitude lies between two neighbouring points of every grid, and none but these two is found
there. -/
theorem grid_neighbours (x : Binary64) (power : ℤ) :
    ∃ low : ℕ, low * 10 ^ power ≤ x.magnitude ∧ x.magnitude < (low + 1) * 10 ^ power ∧
      (∀ c, x.onGrid? power = some c → c ≤ low + 1) ∧
      (x.covers low power = true → x.onGrid? power ≠ none) := by
  obtain ⟨unit, positive, scale⟩ := scaled_eq power x.exponent
  obtain ⟨step, size⟩ := scale 1 x.significand
  obtain ⟨u, atStep⟩ : ∃ u, u = (scaled 1 power x.significand x.exponent).1 := ⟨_, rfl⟩
  obtain ⟨v, atSize⟩ : ∃ v, v = (scaled 1 power x.significand x.exponent).2 := ⟨_, rfl⟩
  have opened : x.onGrid? power =
      if x.covers (v / u) power then
        if x.covers (v / u + 1) power then some (roundHalfEven v u) else some (v / u)
      else if x.covers (v / u + 1) power then some (v / u + 1) else none := by
    rw [atStep, atSize]
    simp only [onGrid?]
    split <;> simp only [*] <;> rfl
  rw [← atStep, Nat.cast_one, one_mul] at step
  rw [← atSize, ← magnitude] at size
  have positive' : 0 < u := by
    have cast : (0 : ℚ) < u := by
      rw [step]
      positivity
    exact_mod_cast cast
  refine ⟨v / u, ?_, ?_, fun c found => ?_, fun covered => ?_⟩
  · have below : ((v / u : ℕ) : ℚ) * u ≤ v := by exact_mod_cast Nat.div_mul_le_self v u
    rw [step, size, ← mul_assoc] at below
    exact le_of_mul_le_mul_right below positive
  · have above : (v : ℚ) < ((v / u : ℕ) + 1) * u := by
      have natural := Nat.lt_div_mul_add (a := v) positive'
      rw [← Nat.succ_mul] at natural
      exact_mod_cast natural
    rw [step, size, ← mul_assoc] at above
    exact lt_of_mul_lt_mul_right above positive.le
  · rw [opened] at found
    split at found <;> split at found <;> cases found
    · exact roundHalfEven_le v u
    · exact Nat.le_succ _
    · exact le_rfl
  · rw [opened, if_pos covered]
    split <;> exact Option.some_ne_none _

/-- A point on the grid that stands for the magnitude is no more than a step above it. -/
theorem onGrid?_le {c : ℕ} (found : x.onGrid? power = some c) :
    c * 10 ^ power ≤ x.magnitude + 10 ^ power := by
  obtain ⟨low, below, _, near, _⟩ := x.grid_neighbours power
  have step : (0 : ℚ) < 10 ^ power := by positivity
  have next : (c : ℚ) ≤ low + 1 := by exact_mod_cast near c found
  calc (c : ℚ) * 10 ^ power ≤ (low + 1) * 10 ^ power := mul_le_mul_of_nonneg_right next step.le
    _ = low * 10 ^ power + 10 ^ power := by rw [add_mul, one_mul]
    _ ≤ x.magnitude + 10 ^ power := by linarith

/-- A grid with steps of no more than a quarter has a point that rounds to the magnitude. -/
theorem onGrid?_of_fine (some : 0 < x.significand) (fine : 10 ^ power ≤ x.quarter) :
    x.onGrid? power ≠ none := by
  obtain ⟨low, below, above, _, covered⟩ := x.grid_neighbours power
  refine covered (covers_of_near some below ?_)
  rw [add_mul, one_mul] at above
  linarith

/-- The search ends on the first grid, or the grid before the one where it ends has no point. -/
theorem coarsest?_misses {count : ℕ} {d : Decimal} (found : x.coarsest? count power = some d) :
    d.exponent = power ∨ x.onGrid? (d.exponent + 1) = none := by
  induction count generalizing power with
  | zero => cases found
  | succ count ih =>
    unfold coarsest? at found
    split at found
    · cases found
      exact Or.inl rfl
    · next missed =>
      right
      rcases ih found with first | before
      · rwa [first, sub_add_cancel]
      · exact before

/-- The search ends if one of the grids that it tries has a point. -/
theorem coarsest?_of_hit {count k : ℕ} (tried : k < count) (hit : x.onGrid? (power - k) ≠ none) :
    ∃ d, x.coarsest? count power = some d := by
  induction count generalizing power k with
  | zero => exact absurd tried (Nat.not_lt_zero k)
  | succ count ih =>
    unfold coarsest?
    split
    · exact ⟨_, rfl⟩
    · next missed =>
      cases k with
      | zero =>
        rw [Nat.cast_zero, sub_zero] at hit
        exact absurd missed hit
      | succ k =>
        refine ih (Nat.lt_of_succ_lt_succ tried) ?_
        have same : power - 1 - (k : ℤ) = power - (k + 1 : ℕ) := by
          push_cast
          ring
        rwa [same]

theorem magnitude_lt_powerAbove (x : Binary64) : x.magnitude < 10 ^ x.powerAbove := by
  let whole := x.significand * 2 ^ x.exponent.toNat / 2 ^ (-x.exponent).toNat
  have below : whole < 10 ^ x.powerAbove := by
    calc whole < 2 ^ (whole.log2 + 1) := Nat.lt_log2_self
      _ ≤ 2 ^ (3 * (whole.log2 / 3 + 1)) := Nat.pow_le_pow_right (by decide) (by omega)
      _ = 8 ^ (whole.log2 / 3 + 1) := Nat.pow_mul 2 3 _
      _ ≤ 10 ^ x.powerAbove := Nat.pow_le_pow_left (by decide) _
  rw [Nat.div_lt_iff_lt_mul (Nat.pow_pos (by decide))] at below
  rw [magnitude, zpow_eq_div (by norm_num), ← mul_div_assoc, div_lt_iff₀ (by positivity)]
  exact_mod_cast below

/-- The least power of ten that is tried is no more than a quarter of any distance. -/
theorem least_le_quarter (x : Binary64) : (10 : ℚ) ^ (-1074 : ℤ) ≤ x.quarter := by
  have lower := x.exponent_bounds.1
  have powers : (2 : ℚ) ^ 1076 ≤ 10 ^ 1074 := by
    calc (2 : ℚ) ^ 1076 ≤ 2 ^ (3 * 1074) := pow_le_pow_right₀ (by norm_num) (by norm_num)
      _ = (2 ^ 3) ^ 1074 := pow_mul 2 3 1074
      _ ≤ 10 ^ 1074 := pow_le_pow_left₀ (by norm_num) (by norm_num) _
  calc (10 : ℚ) ^ (-1074 : ℤ) = (10 ^ 1074)⁻¹ := by rw [zpow_neg]; rfl
    _ ≤ (2 ^ 1076)⁻¹ := inv_anti₀ (by positivity) powers
    _ = 2 ^ (-1076 : ℤ) := by rw [zpow_neg]; rfl
    _ ≤ x.quarter := zpow_le_zpow_right₀ (by norm_num) (by omega)

/-- Above the magnitude no point of a grid but its first one can stand for it. -/
theorem coefficient_lt_two {c : ℕ} (found : x.onGrid? power = some c)
    (above : x.magnitude < 10 ^ power) : c < 2 := by
  have step : (0 : ℚ) < 10 ^ power := by positivity
  have near := onGrid?_le found
  have two : (c : ℚ) < 2 := by
    refine lt_of_mul_lt_mul_right ?_ step.le
    linarith
  exact_mod_cast two

/-- Where the next coarser grid has no point, ten steps are more than a quarter of the distance to the
neighbours. -/
theorem coefficient_lt_of_missed {c : ℕ} (some : 0 < x.significand)
    (found : x.onGrid? power = Option.some c) (missed : x.onGrid? (power + 1) = none) :
    c < 40 * x.significand + 1 := by
  have step : (0 : ℚ) < 10 ^ power := by positivity
  have near := onGrid?_le found
  have coarse : x.quarter < 10 * 10 ^ power := by
    rw [mul_comm, ← zpow_add_one₀ (by norm_num)]
    exact lt_of_not_ge fun fine => onGrid?_of_fine some fine missed
  have positive : (0 : ℚ) < 4 * x.significand := by
    have cast : (0 : ℚ) < x.significand := by exact_mod_cast some
    linarith
  have bound : (c : ℚ) < 40 * x.significand + 1 := by
    refine lt_of_mul_lt_mul_right ?_ step.le
    calc (c : ℚ) * 10 ^ power
        ≤ 4 * x.significand * x.quarter + 10 ^ power := x.magnitude_eq_quarters ▸ near
      _ < 4 * x.significand * (10 * 10 ^ power) + 10 ^ power :=
        add_lt_add_left (mul_lt_mul_of_pos_left coarse positive) _
      _ = (40 * x.significand + 1) * 10 ^ power := by ring
  exact_mod_cast bound

/-- A shortest decimal has no more than 18 digits: on a grid ten times as coarse as a quarter of the
distance to the neighbours there would still be a point, and a shorter decimal. -/
theorem shortest_coefficient_lt (x : Binary64) : x.shortest.coefficient < 10 ^ 18 := by
  unfold shortest
  split
  · decide
  · next nonzero =>
    have some : 0 < x.significand :=
      Nat.pos_of_ne_zero (mt x.significand_eq_zero_iff.mp nonzero)
    have hit : x.onGrid? (x.powerAbove - (x.powerAbove + 1074 : ℕ)) ≠ none := by
      refine onGrid?_of_fine some ?_
      have last : (x.powerAbove : ℤ) - (x.powerAbove + 1074 : ℕ) = -1074 := by omega
      rw [last]
      exact x.least_le_quarter
    obtain ⟨d, found⟩ := coarsest?_of_hit (Nat.lt_succ_self (x.powerAbove + 1074)) hit
    rw [found, Option.getD_some]
    have onGrid := (coarsest?_bounds found).1
    rcases coarsest?_misses found with first | missed
    · have above := x.magnitude_lt_powerAbove
      rw [← zpow_natCast, ← first] at above
      have few := coefficient_lt_two onGrid above
      omega
    · have few := coefficient_lt_of_missed some onGrid missed
      have significand := x.significand_lt
      omega

end Binary64

namespace Datum

/-- The text of a floating point number keeps all its digits, if it is read in the way in which the
text of a scalar is: there are too few of them to be rounded. -/
theorem magnitudeOfText_text {x : Binary64} (finite : x.isFinite = true) :
    ∃ d y, DecimalText.read? (String.ofList x.text) = some (.finite d) ∧
      magnitudeOfText (.finite d) = .ok y ∧
      FixedPoint.ofDecimal y = FixedPoint.ofDecimal x.shortest := by
  obtain ⟨d, read, same⟩ := Binary64.read_text finite
  have bounds := x.moderate_shortest
  have short := x.shortest_coefficient_lt
  have below : d.value < 10 ^ (4299 : ℤ) := by
    have upper := bounds.upper
    have coefficient : (x.shortest.coefficient : ℚ) < 10 ^ 18 := by exact_mod_cast short
    calc d.value = x.shortest.coefficient * 10 ^ x.shortest.exponent := same
      _ < 10 ^ 18 * 10 ^ x.shortest.exponent := mul_lt_mul_of_pos_right coefficient (by positivity)
      _ = 10 ^ (18 + x.shortest.exponent) := by
        rw [zpow_add₀ (by norm_num)]
        rfl
      _ ≤ 10 ^ (4299 : ℤ) := zpow_le_zpow_right₀ (by norm_num) (by omega)
  have held : scalarLimits.Represents d.value :=
    ⟨x.shortest, short.trans (by decide),
      (by decide : scalarLimits.tiny ≤ -1075).trans bounds.lower, same⟩
  obtain ⟨y, rounded, few, nearest⟩ := DecimalLimits.round_roundsHalfEven
    (by decide : 0 < scalarLimits.precision) (by decide : scalarLimits.tiny ≤ 4299) (by decide)
    (by decide) below
  have kept : y.value = d.value :=
    nearest.eq_self_iff.mpr (by
      rw [neg_neg]
      exact (DecimalLimits.represents_iff (same ▸ x.shortest.value_nonneg)).mp held)
  exact ⟨d, y, read, magnitudeOfText_finite rounded few,
    FixedPoint.ofDecimal_eq_of_value_eq (kept.trans same)⟩

/-- A floating point scalar with the text of a floating point number is written as that number. -/
theorem toNumber_scalar_eq_float {x : Binary64} (finite : x.isFinite = true) {f : Facets Datum}
    (family : f.scalarFamily = some "f") (indexless : f.index = Option.none)
    (other : ∀ n, f.number ≠ some (.int n)) (float : f.toFloat = .ok (.float x))
    (own : f.ownText = .ok (String.ofList x.text)) :
    toNumber (.scalar f) false = toNumber (.float x) false := by
  obtain ⟨d, y, read, kept, digits⟩ := magnitudeOfText_text finite
  rw [toNumber_of_text family indexless other float finite own read kept, digits]
  exact (toNumber_float finite (Or.inl rfl)).symm

end Datum

end Numeral
