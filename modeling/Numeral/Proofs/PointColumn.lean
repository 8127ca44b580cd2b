import Numeral.Proofs.FloatWriting
import Numeral.Proofs.Relevance

namespace Numeral

namespace Binary64

variable {x : Binary64}

/-- A whole number stands for itself. -/
theorem covers_whole {c : Nat} (some : x.significand ≠ 0)
    (whole : c * 2 ^ (-x.exponent).toNat = x.significand * 2 ^ x.exponent.toNat) :
    x.covers c 0 = true := by
  have quarters : c * 2 ^ (-(x.exponent - 2)).toNat =
      4 * x.significand * 2 ^ (x.exponent - 2).toNat := by
    rcases le_or_gt x.exponent 0 with below | above
    · have shift : (-(x.exponent - 2)).toNat = (-x.exponent).toNat + 2 := by omega
      have none : x.exponent.toNat = 0 := by omega
      have none' : (x.exponent - 2).toNat = 0 := by omega
      rw [none, pow_zero, mul_one] at whole
      rw [shift, none', pow_add, ← mul_assoc, whole]
      ring
    · have none : (-x.exponent).toNat = 0 := by omega
      rw [none, pow_zero, mul_one] at whole
      have shift : x.exponent.toNat + (-(x.exponent - 2)).toNat = (x.exponent - 2).toNat + 2 := by
        omega
      rw [whole, mul_assoc, ← pow_add, shift, pow_add]
      ring
  have positive : 0 < 2 ^ (x.exponent - 2).toNat := Nat.pow_pos (by decide)
  have low (k : Nat) (less : 0 < k) :
      (4 * x.significand - k) * 2 ^ (x.exponent - 2).toNat <
        4 * x.significand * 2 ^ (x.exponent - 2).toNat :=
    Nat.mul_lt_mul_of_pos_right (by omega) positive
  have high : 4 * x.significand * 2 ^ (x.exponent - 2).toNat <
      (4 * x.significand + 2) * 2 ^ (x.exponent - 2).toNat :=
    Nat.mul_lt_mul_of_pos_right (by omega) positive
  simp only [covers, scaled, Int.toNat_zero, Int.neg_zero, pow_zero, mul_one, quarters]
  split <;> split <;> simp [low, high, le_of_lt]

/-- The search ends before the places behind the point if whole numbers hold the number. -/
theorem coarsest?_whole {count : Nat} {power : Int} (nonneg : 0 ≤ power) (within : power < count)
    (whole : x.onGrid? 0 ≠ none) : ∃ d, x.coarsest? count power = some d ∧ 0 ≤ d.exponent := by
  induction count generalizing power with
  | zero => omega
  | succ count ih =>
    rw [coarsest?]
    cases grid : x.onGrid? power with
    | some c => exact ⟨_, rfl, nonneg⟩
    | none =>
      have other : power ≠ 0 := by
        rintro rfl
        exact whole grid
      push_cast at within
      exact ih (by omega) (by omega)

theorem onGrid?_whole {c : Nat} (some : x.significand ≠ 0)
    (whole : c * 2 ^ (-x.exponent).toNat = x.significand * 2 ^ x.exponent.toNat) :
    x.onGrid? 0 ≠ none := by
  have quotient : x.significand * 2 ^ x.exponent.toNat / 2 ^ (-x.exponent).toNat = c := by
    rw [← whole, Nat.mul_div_cancel _ (Nat.pow_pos (by decide))]
  simp only [onGrid?, scaled, Int.toNat_zero, Int.neg_zero, pow_zero, mul_one, one_mul, quotient,
    covers_whole some whole]
  cases x.covers (c + 1) 0 <;> exact Option.some_ne_none _

theorem natAbs_mul_pow {k : ℤ} (whole : x.value = k) :
    k.natAbs * 2 ^ (-x.exponent).toNat = x.significand * 2 ^ x.exponent.toNat := by
  have unit : (2 : ℚ) ^ x.exponent = 2 ^ x.exponent.toNat / 2 ^ (-x.exponent).toNat := by
    rw [← zpow_natCast, ← zpow_natCast, ← zpow_sub₀ two_ne_zero]
    congr 1
    omega
  have magnitude : (k.natAbs : ℚ) = x.significand * 2 ^ x.exponent := by
    have nonneg : (0 : ℚ) ≤ x.significand * 2 ^ x.exponent :=
      mul_nonneg (Nat.cast_nonneg _) (zpow_nonneg zero_le_two _)
    rw [Nat.cast_natAbs, Int.cast_abs, ← whole, value, abs_mul, abs_of_nonneg nonneg]
    split <;> norm_num
  have power : (2 : ℚ) ^ (-x.exponent).toNat ≠ 0 := pow_ne_zero _ two_ne_zero
  rw [unit, mul_div_assoc', eq_div_iff power] at magnitude
  exact_mod_cast magnitude

/-- The shortest decimal of a whole number is one. -/
theorem exponent_shortest_nonneg {k : ℤ} (whole : x.value = k) : 0 ≤ x.shortest.exponent := by
  unfold shortest
  split
  · exact Int.le_refl 0
  · next nonzero =>
    have some : x.significand ≠ 0 := fun zero => nonzero (x.significand_eq_zero_iff.mp zero)
    have grid : x.onGrid? 0 ≠ none :=
      onGrid?_whole some (natAbs_mul_pow whole)
    have within : (x.powerAbove : ℤ) < (x.powerAbove + 1075 : ℕ) := by omega
    obtain ⟨d, found, nonneg⟩ := coarsest?_whole (Int.natCast_nonneg _) within grid
    rw [found, Option.getD_some]
    exact nonneg

end Binary64

namespace Margin

variable {m : Margin}

/-- Alignment at the point puts the whole fill in front of the integral digits, so that nothing
follows the tail. -/
theorem pad_front (atPoint : m.align = .decimal) (width : Nat) (p : Pieces) :
    ∃ front, m.pad width p = front ++ p.tail ∧
      cost front = cost p.lead + cost p.integral + m.copies width p * m.fill.utf8Size := by
  have law := m.pad_padded width p
  have ahead (k : Nat) : m.align.ahead k = k := by rw [atPoint]; rfl
  let run := List.replicate (m.copies width p) m.fill
  have paid : cost run = m.copies width p * m.fill.utf8Size := cost_replicate _ _
  cases mode : m.mode with
  | plain =>
    have written := law.plain mode
    rw [ahead, Nat.sub_self] at written
    refine ⟨run ++ (p.lead ++ p.integral), ?_, ?_⟩
    · rw [written]
      simp [Pieces.text, run]
    · simp only [cost_append]
      omega
  | zeros =>
    refine ⟨p.lead ++ run ++ p.integral, ?_, ?_⟩
    · rw [law.zeros mode, List.append_assoc _ p.integral]
    · simp only [cost_append]
      omega
  | filled =>
    have written := law.filled mode
    rw [ahead, Nat.sub_self] at written
    refine ⟨p.lead ++ (run ++ p.integral), ?_, ?_⟩
    · rw [written]
      simp [run]
    · simp only [cost_append]
      omega

/-- Without a tail there is no column of the point, and the number stands on the right. -/
theorem pad_of_tail_eq_nil {r : Margin} (atPoint : m.align = .decimal) (right : r.align = .right)
    (mode : r.mode = m.mode) (fill : r.fill = m.fill) (width : Nat) {p : Pieces}
    (none : p.tail = []) : r.pad width p = m.pad width p := by
  have counted : r.counted p = m.counted p := by
    simp only [counted_eq, countedText, mode, none, ite_self]
  cases m with
  | plain a =>
    cases r with
    | plain b =>
      obtain rfl : a = .decimal := atPoint
      obtain rfl : b = .right := right
      rw [pad, pad, counted]
      rfl
    | filled | zeros => cases mode
  | filled c a =>
    cases r with
    | filled d b =>
      obtain rfl : a = .decimal := atPoint
      obtain rfl : b = .right := right
      obtain rfl : d = c := fill
      rw [pad, pad, counted]
      rfl
    | plain | zeros => cases mode
  | zeros =>
    cases r with
    | zeros =>
      rw [pad, pad, counted]
      rfl
    | plain | filled => cases mode

end Margin

/-- The magnitude of a number as it is written, which is rounded if a precision is in force. -/
def Measures.magnitude (m : Measures) (n : Number) : FixedPoint :=
  (m.precision.elim n fun p => n.rounded p).magnitude

section

variable {m : Measures} {n : Number}

theorem Measures.places_of_not_float (float : n.isFloat = false) (whole : n.magnitude.places = 0) :
    (m.magnitude n).places = 0 := by
  rw [magnitude, Number.rounded_of_not_float float, whole]

theorem Measures.places_of_unset (precision : m.precision = none) :
    (m.magnitude n).places = n.magnitude.places := by
  rw [magnitude, precision]
  rfl

theorem Measures.places_of_zero (float : n.isFloat = true) (finite : n.isFinite = true)
    (precision : m.precision = some 0) : (m.magnitude n).places = 0 := by
  rw [magnitude, precision, Option.elim_some, Number.rounded, if_pos (by rw [float, finite]; rfl),
    FixedPoint.places_rounded]
  rfl

/-- Sign and base marker. -/
def Style.lead (s : Style) (n : Number) : List Char :=
  s.sign.text n.negative ++ s.marker

/-- The integral digits of a number as they are written, separators included. -/
def Style.digits (s : Style) (m : Measures) (n : Number) : List Char :=
  s.integral m.spacing (m.magnitude n).whole

/-- A number with places behind the point is written as lead, integral digits and the point with
these places. -/
theorem Style.pieces_of_places (s : Style) (finite : n.isFinite = true)
    (places : (m.magnitude n).places ≠ 0) :
    s.pieces m n = { lead := s.lead n, integral := s.digits m n
                     tail := s.point :: (m.magnitude n).fraction.chars } := by
  have number : n.special = none := Option.isNone_iff_eq_none.mp finite
  rw [Measures.magnitude] at places
  simp only [pieces, number, if_neg places, lead, digits, Measures.magnitude]

/-- In front of the point a number has its lead, its integral digits, and the fill where mode and
alignment put it. An explicit fill pads the digits alone; any other margin counts the lead too. -/
theorem Style.write_point {s : Style} (atPoint : s.margin.align = .decimal)
    (finite : n.isFinite = true) (places : (m.magnitude n).places ≠ 0) :
    ∃ front, s.write m n = front ++ s.point :: (m.magnitude n).fraction.chars ∧
      (s.margin.mode ≠ .filled → cost front = max m.width (cost (s.lead n) + cost (s.digits m n))) ∧
      (s.margin.mode = .filled → cost front = cost (s.lead n) + (cost (s.digits m n) +
        s.margin.fill.utf8Size *
          ((m.width - cost (s.digits m n)) / s.margin.fill.utf8Size))) := by
  obtain ⟨front, written, bytes⟩ := s.margin.pad_front atPoint m.width (s.pieces m n)
  rw [Margin.copies, Margin.counted, if_pos atPoint, s.pieces_of_places finite places] at bytes
  refine ⟨front, ?_, fun mode => ?_, fun mode => ?_⟩
  · rw [write, written, s.pieces_of_places finite places]
  · rw [bytes, if_neg mode, Margin.utf8Size_fill mode]
    dsimp only
    omega
  · rw [bytes, if_pos mode]
    dsimp only
    rw [Nat.zero_add, Nat.add_zero, Nat.mul_comm]
    omega

end

/-- A number is written with a fraction if it has digits, and places behind the point that rounding
leaves. -/
def Measures.HasFraction (m : Measures) (n : Number) : Prop :=
  n.isFinite = true ∧ (m.magnitude n).places ≠ 0

theorem Style.tail_of_not_hasFraction (s : Style) {m : Measures} {n : Number}
    (none : ¬ m.HasFraction n) : (s.pieces m n).tail = [] := by
  unfold pieces
  cases special : n.special with
  | some _ => rfl
  | none =>
    have finite : n.isFinite = true := by rw [Number.isFinite, special]; rfl
    exact if_pos (Classical.byContradiction fun places => none ⟨finite, places⟩)

namespace Datum

/-- Data without a fraction, whatever the style: integers, numbers without digits, and whole
floating point numbers that no precision gives further places. -/
inductive Whole (m : Measures) (value : Datum) : Prop
  | integer {i : Int} : value.toPlain false = .ok (.int i) → Whole m value
  | special {x : Binary64} :
      value.toPlain false = .ok (.float x) → x.isFinite = false → Whole m value
  | float {x : Binary64} {k : ℤ} :
      value = .float x ∨ (∃ kind, value = .floatLike kind x) → x.value = k →
      m.precision = .none ∨ m.precision = some 0 → Whole m value

theorem Whole.not_hasFraction {m : Measures} {value : Datum} {n : Number} (whole : value.Whole m)
    (number : value.toNumber false = .ok n) : ¬ m.HasFraction n := by
  rintro ⟨finite, places⟩
  cases whole with
  | integer integer =>
    have float := (isFloat_eq_false_iff number).mpr ⟨_, integer⟩
    exact places (Measures.places_of_not_float float (places_of_not_float number float))
  | special plain special =>
    rw [(isFinite_eq_false_iff number).mpr ⟨_, plain, special⟩] at finite
    cases finite
  | @float x k float same precision =>
    have plain : value.toPlain false = .ok (.float x) := by
      rcases float with rfl | ⟨kind, rfl⟩ <;> rfl
    cases digits : x.isFinite with
    | false =>
      rw [(isFinite_eq_false_iff number).mpr ⟨x, plain, digits⟩] at finite
      cases finite
    | true =>
      have made := toNumber_float digits float
      rw [number] at made
      cases made
      rcases precision with unset | zero
      · rw [Measures.places_of_unset unset] at places
        refine places ?_
        rw [FixedPoint.ofDecimal, if_pos (Binary64.exponent_shortest_nonneg same)]
      · exact places (Measures.places_of_zero rfl rfl zero)

/-- A datum is written with a point and a fraction, and there are `column` bytes in front of the
point. -/
structure PointAt (s : Style) (m : Measures) (given value : Datum) (n : Number) (column : Nat) :
    Prop where
  number : value.toNumber false = .ok n
  fraction : m.HasFraction n
  written : ∃ (out : String) (front : List Char), Datum.render (.style s) value given = .ok out ∧
    out.toList = front ++ s.point :: (m.magnitude n).fraction.chars ∧
    (String.ofList front).utf8ByteSize = column

section

variable {s : Style} {given : Datum} {o : Overrides} {m : Measures}

/-- The digits behind the point tell where it stands. -/
theorem PointAt.column_eq (supplied : given.toOverrides = .ok o) (settled : s.measures o = .ok m)
    {value : Datum} {n : Number} {column : Nat} (point : PointAt s m given value n column)
    {front : List Char}
    (written : s.write m n = front ++ s.point :: (m.magnitude n).fraction.chars) :
    column = cost front := by
  obtain ⟨out, front', rendered, whole, bytes⟩ := point.written
  rw [render_of_settled supplied settled point.number] at rendered
  obtain rfl := Except.ok.inj rendered
  rw [String.toList_ofList, written] at whole
  rw [← bytes, ← cost_eq_utf8ByteSize, List.append_cancel_right whole]

/-- Alignment at the point puts the point into the column where the width ends, unless lead and
integral digits reach beyond it. An explicit fill stands between them and counts the digits alone.
Whatever has no fraction is written as on the right. -/
theorem render_point_column (atPoint : s.margin.align = .decimal)
    (supplied : given.toOverrides = .ok o) (settled : s.measures o = .ok m) :
    (∀ (value : Datum) (n : Number), value.toNumber false = .ok n → m.HasFraction n →
      ∃ column, PointAt s m given value n column ∧
        (s.margin.mode ≠ .filled →
          column = max m.width (String.ofList (s.lead n ++ s.digits m n)).utf8ByteSize) ∧
        (s.margin.mode = .filled →
          column = (String.ofList (s.lead n)).utf8ByteSize +
            ((String.ofList (s.digits m n)).utf8ByteSize + s.margin.fill.utf8Size *
              ((m.width - (String.ofList (s.digits m n)).utf8ByteSize) /
                s.margin.fill.utf8Size)))) ∧
    (∀ (value value' : Datum) (n n' : Number) (column column' : Nat),
      PointAt s m given value n column → PointAt s m given value' n' column' →
      s.margin.mode ≠ .filled →
      (String.ofList (s.lead n ++ s.digits m n)).utf8ByteSize ≤ m.width →
      (String.ofList (s.lead n' ++ s.digits m n')).utf8ByteSize ≤ m.width → column = column') ∧
    (∀ (value : Datum) (n : Number), value.toNumber false = .ok n → ¬ m.HasFraction n →
      ∀ right : Margin, right.mode = s.margin.mode → right.fill = s.margin.fill →
        right.align = .right →
        ∃ out, Datum.render (.style { s with margin := right }) value given = .ok out ∧
          Datum.render (.style s) value given = .ok out) ∧
    ∀ (value : Datum) (n : Number), value.toNumber false = .ok n → value.Whole m →
      ¬ m.HasFraction n := by
  simp only [← cost_eq_utf8ByteSize, cost_append]
  refine ⟨fun value n number fraction => ?_, ?_, ?_, ?_⟩
  · obtain ⟨front, written, shared, filled⟩ := Style.write_point atPoint fraction.1 fraction.2
    refine ⟨cost front, ⟨number, fraction, _, front,
      render_of_settled supplied settled number, ?_, ?_⟩, shared, filled⟩
    · rw [String.toList_ofList, written]
    · rw [cost_eq_utf8ByteSize]
  · intro value value' n n' column column' one two mode within within'
    obtain ⟨front, written, shared, _⟩ := Style.write_point atPoint one.fraction.1 one.fraction.2
    obtain ⟨front', written', shared', _⟩ := Style.write_point atPoint two.fraction.1 two.fraction.2
    rw [one.column_eq supplied settled written, two.column_eq supplied settled written',
      shared mode, shared' mode, max_eq_left within, max_eq_left within']
  · intro value n number none right mode fill align
    have same : Style.write { s with margin := right } m n = s.write m n :=
      Margin.pad_of_tail_eq_nil atPoint align mode fill m.width (s.tail_of_not_hasFraction none)
    have settled' : Style.measures { s with margin := right } o = .ok m := settled
    refine ⟨_, render_of_settled supplied settled' number, ?_⟩
    rw [same, render_of_settled supplied settled number]
  · exact fun value n number whole => whole.not_hasFraction number

end

/-- Neither the signs nor the two bytes of the separator move the point. -/
theorem render_point_column_signs :
    let s : Style := { margin := .plain .decimal, sign := .always, width := .fixed 10,
                       separator := .char '·' }
    let m : Measures := { width := 10 }
    let x : Datum := .float ⟨0x40934A0000000000⟩
    let y : Datum := .float ⟨0xBFD0000000000000⟩
    Datum.render (.style s) x .none = .ok "   +1·234.5" ∧
      Datum.render (.style s) y .none = .ok "        -0.25" ∧
      ∃ n k, PointAt s m .none x n 10 ∧ PointAt s m .none y k 10 := by
  intro s m x y
  let n : Number := { magnitude := ⟨12345, 1⟩, isFloat := true }
  let k : Number := { negative := true, magnitude := ⟨25, 2⟩, isFloat := true }
  have supplied : Datum.toOverrides .none = .ok {} := rfl
  have settled : s.measures {} = .ok m := rfl
  have first : x.toNumber false = .ok n :=
    (toNumber_float rfl (Or.inl rfl)).trans (congrArg Except.ok (by decide +kernel))
  have second : y.toNumber false = .ok k :=
    (toNumber_float rfl (Or.inl rfl)).trans (congrArg Except.ok (by decide +kernel))
  obtain ⟨column, left, atLeft, _⟩ :=
    (render_point_column rfl supplied settled).1 x n first ⟨rfl, by decide⟩
  obtain ⟨column', right, atRight, _⟩ :=
    (render_point_column rfl supplied settled).1 y k second ⟨rfl, by decide⟩
  obtain rfl : column = 10 := (atLeft nofun).trans (by decide +kernel)
  obtain rfl : column' = 10 := (atRight nofun).trans (by decide +kernel)
  refine ⟨?_, ?_, n, k, left, right⟩
  · rw [render_of_settled supplied settled first]
    exact congrArg Except.ok (by decide +kernel)
  · rw [render_of_settled supplied settled second]
    exact congrArg Except.ok (by decide +kernel)

end Datum

end Numeral
