import Numeral.Binary64.Text
import Numeral.Proofs.DecimalText
import Numeral.Proofs.Magnitude

namespace Numeral.Binary64

open DecimalText

/-- The text of an exponent is its sign and its digits, with leading zeros. -/
theorem exponentText_eq (e : Int) :
    ∃ p : TenPower, 'e' :: exponentText e = p.text ∧ p.exponent = e := by
  let zeros : Digits 10 := List.replicate (2 - (decimalText e.natAbs).length) 0
  have value : Digits.value (zeros ++ Digits.decimal e.natAbs) = e.natAbs := by
    rw [Digits.value_replicate_zero_append, Digits.decimal, Digits.value_ofNat]
  refine ⟨{ sign := some (e < 0), digits := zeros ++ Digits.decimal e.natAbs, nonempty := ?_ },
    ?_, ?_⟩
  · exact List.append_ne_nil_of_right_ne_nil _ (Digits.ofNat_ne_nil _ _)
  · simp only [TenPower.text, signText, Digits.chars_append, zeros, Digits.chars_replicate_zero,
      exponentText, decimalText, decide_eq_true_eq, Bool.false_eq_true, if_false, List.cons_append,
      List.nil_append]
  · simp only [TenPower.exponent, value, Option.some.injEq, decide_eq_true_eq]
    split <;> omega

/-- A decimal in scientific notation denotes itself. -/
theorem scientific_spells {d : Digit} {ds : Digits 10} (e : Int) :
    Spells (scientific (Digits.chars (d :: ds)) e) ⟨Digits.value (d :: ds), e - ds.length⟩ := by
  obtain ⟨p, written, rfl⟩ := exponentText_eq e
  cases ds with
  | nil =>
    let t : Scientific := { whole := [d], power := some p, nonempty := List.cons_ne_nil _ _ }
    have spelled : Spells t.unsigned t.decimal := spells_unsigned (List.cons_ne_nil d [])
    change Spells (d.char :: p.text) _ at spelled
    rw [← written] at spelled
    exact spelled
  | cons d' ds =>
    let t : Scientific :=
      { whole := [d], places := some (d' :: ds), power := some p, nonempty := List.cons_ne_nil _ _ }
    have spelled : Spells t.unsigned t.decimal := spells_unsigned (List.cons_ne_nil d [])
    change Spells (d.char :: '.' :: (Digits.chars (d' :: ds) ++ p.text)) _ at spelled
    rw [← written] at spelled
    exact spelled

theorem pointed_spells {whole places : Digits 10} (nonempty : whole ≠ []) :
    Spells (whole.chars ++ '.' :: places.chars) ⟨Digits.value (whole ++ places), -places.length⟩ := by
  let t : Scientific :=
    { whole, places := some places, nonempty := List.append_ne_nil_of_left_ne_nil nonempty _ }
  have spelled : Spells t.unsigned t.decimal := spells_unsigned nonempty
  have text : t.unsigned = whole.chars ++ '.' :: places.chars :=
    congrArg (whole.chars ++ '.' :: ·) (List.append_nil places.chars)
  have decimal : t.decimal = ⟨Digits.value (whole ++ places), -places.length⟩ :=
    congrArg (Decimal.mk _) (Int.zero_sub _)
  rwa [text, decimal] at spelled

theorem zeros_behind_spells {ds : Digits 10} (nonempty : ds ≠ []) (k : Nat) :
    Spells (ds.chars ++ List.replicate k '0' ++ ['.', '0']) ⟨ds.value * 10 ^ (k + 1), -1⟩ := by
  have spelled : Spells (Digits.chars (ds ++ List.replicate k 0) ++ '.' :: Digits.chars [0])
      ⟨Digits.value (ds ++ List.replicate k 0 ++ [0]), -1⟩ :=
    pointed_spells (List.append_ne_nil_of_left_ne_nil nonempty _)
  rw [List.append_assoc ds, ← List.replicate_succ', Digits.value_append_replicate_zero,
    Digits.chars_append, Digits.chars_replicate_zero] at spelled
  exact spelled

theorem cut_spells {ds : Digits 10} {k : Nat} (front : 0 < k) (within : k < ds.length) :
    Spells (ds.chars.take k ++ '.' :: ds.chars.drop k) ⟨ds.value, k - ds.length⟩ := by
  have nonempty : ds.take k ≠ [] := by
    intro empty
    rcases List.take_eq_nil_iff.mp empty with zero | none
    · omega
    · rw [none, List.length_nil] at within
      omega
  have spelled : Spells (Digits.chars (ds.take k) ++ '.' :: Digits.chars (ds.drop k))
      ⟨Digits.value (ds.take k ++ ds.drop k), -(ds.drop k).length⟩ := pointed_spells nonempty
  have places : -((ds.drop k).length : Int) = k - ds.length := by
    rw [List.length_drop]
    omega
  rw [List.take_append_drop, places] at spelled
  simpa only [Digits.chars, List.map_take, List.map_drop] using spelled

theorem zeros_ahead_spells (ds : Digits 10) (k : Nat) :
    Spells ('0' :: '.' :: (List.replicate k '0' ++ ds.chars)) ⟨ds.value, -(k + ds.length)⟩ := by
  have spelled : Spells (Digits.chars [0] ++ '.' :: Digits.chars (List.replicate k 0 ++ ds))
      ⟨Digits.value ([0] ++ (List.replicate k 0 ++ ds)), -(List.replicate k 0 ++ ds).length⟩ :=
    pointed_spells (List.cons_ne_nil 0 [])
  have value : Digits.value ([0] ++ (List.replicate k 0 ++ ds)) = ds.value :=
    Digits.value_replicate_zero_append (k + 1) ds
  rw [value, Digits.chars_append, Digits.chars_replicate_zero, List.length_append,
    List.length_replicate, Int.natCast_add] at spelled
  exact spelled

/-- A decimal written out denotes itself, except that a multiple of the unit has gained a place. -/
theorem positional_spells {ds : Digits 10} (nonempty : ds ≠ []) (power : Int) :
    Spells (positional ds.chars power)
      (if 0 ≤ power then ⟨ds.value * 10 ^ (power.toNat + 1), -1⟩ else ⟨ds.value, power⟩) := by
  have length : ds.chars.length = ds.length := List.length_map ..
  simp only [positional, length]
  by_cases natural : 0 ≤ power
  · rw [if_pos natural, if_pos natural]
    exact zeros_behind_spells nonempty power.toNat
  · rw [if_neg natural, if_neg natural]
    by_cases front : 0 < ds.length + power
    · rw [if_pos front]
      obtain ⟨k, before⟩ := Int.eq_ofNat_of_zero_le front.le
      have exponent : power = k - ds.length := by omega
      rw [before, Int.toNat_natCast, exponent]
      exact cut_spells (by omega) (by omega)
    · rw [if_neg front]
      obtain ⟨k, missing⟩ := Int.eq_ofNat_of_zero_le (by omega : 0 ≤ -(ds.length + power))
      have exponent : power = -(k + ds.length) := by omega
      rw [missing, Int.toNat_natCast, exponent]
      exact zeros_ahead_spells ds k

theorem not_special {x : Binary64} (finite : x.isFinite = true) :
    x.isNaN = false ∧ x.isInfinite = false := by
  have field : x.field ≠ 2047 := of_decide_eq_true finite
  simp only [isNaN, isInfinite, field, decide_false, Bool.false_and, and_self]

theorem significand_lt (x : Binary64) : x.significand < 2 ^ 53 := by
  have below : x.fraction < 2 ^ 52 := Nat.mod_lt _ (by decide)
  unfold significand
  split <;> omega

theorem exponent_bounds (x : Binary64) : -1074 ≤ x.exponent ∧ x.exponent ≤ 972 := by
  have below : x.field < 2 ^ 11 := Nat.mod_lt _ (by decide)
  unfold exponent
  omega

theorem mul_pow_lt {n b c k e most : Nat} (below : n < b ^ k) (positive : 0 < b) (base : c ≤ b)
    (within : e ≤ most) : n * c ^ e < b ^ (k + most) := by
  calc n * c ^ e
      ≤ n * b ^ most := Nat.mul_le_mul_left n
        ((Nat.pow_le_pow_left base e).trans (Nat.pow_le_pow_right positive within))
    _ < b ^ k * b ^ most := Nat.mul_lt_mul_of_pos_right below (Nat.pow_pos positive)
    _ = b ^ (k + most) := (Nat.pow_add b k most).symm

/-- A point on a decimal grid that stands for `x` is next to its magnitude. -/
theorem onGrid?_lt {x : Binary64} {power : Int} {c : Nat} (fine : -1075 ≤ power)
    (found : x.onGrid? power = some c) : ∃ k ≤ 2064, c < 10 ^ k := by
  let unit := 1 * 10 ^ power.toNat * 2 ^ (-x.exponent).toNat
  let magnitude := x.significand * 2 ^ x.exponent.toNat * 10 ^ (-power).toNat
  have near : c ≤ magnitude / unit + 1 := by
    have rounded := roundHalfEven_le magnitude unit
    simp only [onGrid?, scaled] at found
    split at found <;> cases found
    · exact rounded
    · exact Nat.le_succ _
    · exact le_rfl
  have quotient : magnitude / unit ≤ magnitude := Nat.div_le_self _ _
  obtain ⟨k, few, bound⟩ : ∃ k ≤ 2063, magnitude < 10 ^ k := by
    have significand := x.significand_lt
    have exponent := x.exponent_bounds
    -- Digits of the significand, of its power of two and of the decimal grid.
    refine ⟨16 + 972 + 1075, by decide, ?_⟩
    have integral : x.significand * 2 ^ x.exponent.toNat < 10 ^ (16 + 972) :=
      mul_pow_lt (by omega) (by decide) (by decide) (by omega)
    exact mul_pow_lt integral (by decide) le_rfl (by omega)
  refine ⟨k + 1, by omega, ?_⟩
  rw [Nat.pow_succ]
  omega

/-- The search ends on one of the grids that it tries. -/
theorem coarsest?_bounds {x : Binary64} {count : Nat} {power : Int} {d : Decimal}
    (found : x.coarsest? count power = some d) :
    x.onGrid? d.exponent = some d.coefficient ∧ power - count < d.exponent ∧
      d.exponent ≤ power := by
  induction count generalizing power with
  | zero => cases found
  | succ count ih =>
    unfold coarsest? at found
    split at found
    · next c hit =>
      cases found
      exact ⟨hit, by push_cast; omega, le_rfl⟩
    · obtain ⟨hit, lower, upper⟩ := ih found
      exact ⟨hit, by push_cast; omega, by omega⟩

theorem powerAbove_le (x : Binary64) : x.powerAbove ≤ 343 := by
  let whole := x.significand * 2 ^ x.exponent.toNat / 2 ^ (-x.exponent).toNat
  have bits : whole.log2 < 53 + 972 := by
    by_cases zero : whole = 0
    · rw [zero]
      decide
    · have exponent := x.exponent_bounds
      have bound : x.significand * 2 ^ x.exponent.toNat < 2 ^ (53 + 972) :=
        mul_pow_lt x.significand_lt (by decide) le_rfl (by omega)
      have quotient : whole ≤ x.significand * 2 ^ x.exponent.toNat := Nat.div_le_self _ _
      rw [Nat.log2_lt zero]
      omega
  change whole.log2 / 3 + 1 ≤ 343
  omega

/-- A decimal within the bounds that all shortest ones keep. -/
structure Moderate (d : Decimal) : Prop where
  coefficient : ∃ k ≤ 2064, d.coefficient < 10 ^ k
  lower : -1075 ≤ d.exponent
  upper : d.exponent ≤ 343

theorem moderate_exact (x : Binary64) : Moderate x.exact := by
  have significand := x.significand_lt
  have bounds := x.exponent_bounds
  unfold exact
  split
  · refine ⟨⟨16 + 972, by decide, ?_⟩, by dsimp only; omega, by dsimp only; omega⟩
    exact mul_pow_lt (by omega) (by decide) (by decide) (by omega)
  · refine ⟨⟨16 + 1074, by decide, ?_⟩, by dsimp only; omega, by dsimp only; omega⟩
    exact mul_pow_lt (by omega) (by decide) (by decide) (by omega)

theorem moderate_shortest (x : Binary64) : Moderate x.shortest := by
  unfold shortest
  split
  · exact ⟨⟨0, by decide, Nat.zero_lt_one⟩, by decide, by decide⟩
  · cases found : x.coarsest? (x.powerAbove + 1075) x.powerAbove with
    | none => exact x.moderate_exact
    | some d =>
      obtain ⟨hit, lower, upper⟩ := coarsest?_bounds found
      have above := x.powerAbove_le
      have fine : -1075 ≤ d.exponent := by omega
      exact ⟨onGrid?_lt fine hit, fine, by rw [Option.getD_some]; omega⟩

/-- The limits of what has a text are far away, even with more zeros at the end. -/
theorem Moderate.textLimits_holds {d : Decimal} (moderate : Moderate d) {zeros : Nat} {e : Int}
    (few : zeros ≤ 344) (lower : -1075 ≤ e) (upper : e ≤ 343) :
    textLimits.Holds ⟨d.coefficient * 10 ^ zeros, e⟩ := by
  obtain ⟨k, small, below⟩ := moderate.coefficient
  have digits : Decimal.precision ⟨d.coefficient * 10 ^ zeros, e⟩ ≤ k + 344 + 1 := by
    refine Digits.length_decimal_le (Nat.succ_pos _) ?_
    have bound := mul_pow_lt below (by decide) le_rfl few
    exact bound.trans (Nat.pow_lt_pow_right (by decide) (Nat.lt_succ_self _))
  refine ⟨?_, ?_, ?_⟩
  · have limit : 10000 ≤ textLimits.precision := by decide
    omega
  · exact Int.le_trans (by decide : textLimits.tiny ≤ -1075) lower
  · have limit : 10000 ≤ textLimits.greatest := by decide
    unfold Decimal.leading
    dsimp only
    omega

/-- Both notations spell the decimal, perhaps with one more zero. -/
theorem Moderate.spells {d : Decimal} (moderate : Moderate d) {e : Int}
    (first : e = d.exponent + (decimalText d.coefficient).length - 1) :
    ∃ d', Spells (if -4 ≤ e ∧ e < 16 then positional (decimalText d.coefficient) d.exponent
        else scientific (decimalText d.coefficient) e) d' ∧
      textLimits.Holds d' ∧ d'.value = d.value := by
  have itself : textLimits.Holds d := by
    have holds := moderate.textLimits_holds (Nat.zero_le _) moderate.lower moderate.upper
    rwa [Nat.pow_zero, Nat.mul_one] at holds
  obtain ⟨c, cs, digits⟩ := List.exists_cons_of_ne_nil
    (Digits.ofNat_ne_nil (by decide : 2 ≤ 10) d.coefficient)
  have denotes : Digits.value (c :: cs) = d.coefficient := by
    rw [← digits, Digits.value_ofNat]
  have written : decimalText d.coefficient = Digits.chars (c :: cs) := congrArg Digits.chars digits
  rw [written] at first ⊢
  split
  · have spelled := positional_spells (List.cons_ne_nil c cs) d.exponent
    rw [denotes] at spelled
    by_cases natural : 0 ≤ d.exponent
    · have few : d.exponent.toNat + 1 ≤ 344 := by
        have upper := moderate.upper
        omega
      rw [if_pos natural] at spelled
      refine ⟨_, spelled, moderate.textLimits_holds few (by decide) (by decide), ?_⟩
      obtain ⟨k, exponent⟩ := Int.eq_ofNat_of_zero_le natural
      simp only [Decimal.value, exponent, Int.toNat_natCast, zpow_natCast]
      push_cast
      rw [pow_succ]
      field_simp
    · rw [if_neg natural] at spelled
      exact ⟨_, spelled, itself, rfl⟩
  · have spelled := @scientific_spells c cs e
    have length : (Digits.chars (c :: cs)).length = cs.length + 1 := by
      rw [Digits.chars, List.length_map, List.length_cons]
    have exponent : e - cs.length = d.exponent := by omega
    rw [denotes, exponent] at spelled
    exact ⟨_, spelled, itself, rfl⟩

/-- The text of a finite number denotes its shortest decimal. -/
theorem read_text {x : Binary64} (finite : x.isFinite = true) :
    ∃ d, DecimalText.read? (String.ofList x.text) = some (.finite d) ∧
      d.value = x.shortest.value := by
  obtain ⟨d, spelled, holds, same⟩ := x.moderate_shortest.spells rfl
  refine ⟨d, ?_, same⟩
  simp only [text, not_special finite, Bool.false_eq_true, if_false]
  exact spelled.read?_signed holds x.signBit

end Numeral.Binary64
