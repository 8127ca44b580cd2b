import Numeral.Decimal.Lemmas
import Numeral.Proofs.Grouping
import Numeral.Proofs.Rendering

namespace Numeral

variable {encodable : Char → Bool}

theorem divide_eq (n : Nat) {d : Nat} (positive : 0 < d) : divide n d = .ok (n / d, n % d) :=
  if_neg (Nat.ne_of_gt positive)

/-- A text is measured up to the first character without a form in UTF-8. -/
theorem costChecked_eq (cs : List Char) :
    costChecked encodable cs =
      match cs.find? (!encodable ·) with
      | some c => .error (.unencodable c)
      | none => .ok (cost cs) := by
  induction cs with
  | nil => rfl
  | cons c cs ih =>
    rw [costChecked, charCostChecked, ih]
    cases form : encodable c with
    | false => simp [form, bind, Except.bind]
    | true =>
      cases others : cs.find? (!encodable ·) <;>
        simp [form, others, cost_cons, bind, Except.bind, pure, Except.pure]

/-- No character is written in no bytes. -/
theorem fillRunChecked_eq (fill : Char) (deficit : Nat) :
    fillRunChecked encodable fill deficit =
      if 0 < deficit ∧ encodable fill = false then .error (.unencodable fill)
      else .ok (fillRun fill deficit) := by
  unfold fillRunChecked charCostChecked
  by_cases nothing : deficit = 0
  · rw [if_pos nothing, if_neg (by omega), nothing, fillRun, Nat.zero_div, List.replicate_zero]
  · cases encodable fill with
    | false => simp [nothing, Nat.pos_of_ne_zero nothing, bind, Except.bind]
    | true =>
      simp only [nothing, if_false, if_true, bind, Except.bind, divide_eq deficit fill.utf8Size_pos,
        Bool.true_eq_false, and_false, pure, Except.pure]
      rfl

/-- Both divisors are the size of a group. -/
theorem groupChecked_eq (mark : Char) {size : Nat} {ds : List Char} (positive : 0 < size)
    (digits : ds ≠ []) : groupChecked mark size ds = .ok (group mark size ds) := by
  have some : 0 < ds.length := List.length_pos_iff.mpr digits
  have whole := Nat.div_add_mod' ds.length size
  have part := Nat.mod_lt ds.length positive
  obtain ⟨head, first⟩ : ∃ head, head = if ds.length % size = 0 then size else ds.length % size :=
    ⟨_, rfl⟩
  have cut : ∃ count, ds.length = head + count * size ∧ 0 < head ∧ head ≤ size := by
    by_cases even : ds.length % size = 0
    · rw [if_pos even] at first
      obtain ⟨count, groups⟩ : ∃ count, ds.length / size = count + 1 :=
        Nat.exists_eq_succ_of_ne_zero fun none => by rw [none] at whole; omega
      refine ⟨count, ?_, by omega, by omega⟩
      rw [groups, Nat.succ_mul] at whole
      omega
    · rw [if_neg even] at first
      exact ⟨ds.length / size, by omega, by omega, by omega⟩
  obtain ⟨count, length, nonempty, short⟩ := cut
  have others : (ds.length - head) / size = count := by
    rw [length, Nat.add_sub_cancel_left, Nat.mul_div_cancel _ positive]
  rw [group_eq_slices nonempty short length, groupChecked, divide_eq _ positive]
  simp only [bind, Except.bind, ← first, divide_eq _ positive, others, pure, Except.pure]

namespace Radix

/-- Zero itself has a digit. -/
theorem text_ne_nil (r : Radix) (n : Nat) : r.text n ≠ [] := by
  rw [text, Ne, List.map_eq_nil_iff]
  exact Digits.ofNat_ne_nil _ _

/-- Only in base ten can there be too many digits. -/
theorem textChecked_eq (r : Radix) (n : Nat) :
    r.textChecked n =
      if r = .decimal ∧ 10 ^ Digits.limit ≤ n then .error .tooLarge else .ok (r.text n) := by
  unfold textChecked Digits.written
  by_cases ten : r = .decimal
  · subst r
    by_cases few : n < 10 ^ Digits.limit
    · rw [if_pos rfl, if_pos few, if_neg fun both => Nat.not_le.mpr few both.2]
      rfl
    · rw [if_pos rfl, if_neg few, if_pos ⟨rfl, Nat.not_lt.mp few⟩]
      rfl
  · rw [if_neg ten, if_neg fun both => ten both.1]

end Radix

namespace Number

/-- The number with its magnitude rounded if there is a precision. -/
def settled (n : Number) (precision : Option Nat) : Number :=
  precision.elim n fun p => n.rounded p

/-- Rounding by decimal arithmetic has an outcome, whatever the precision. -/
def Rounds (n : Number) : Prop :=
  ∀ p : Nat, n.magnitude.places ≤ p ∨ n.magnitude.Roundable p

/-- A precision is no less than zero, so that the whole part always has room. -/
theorem magnitudeChecked_eq {n : Number} (rounds : n.Rounds) (precision : Option Nat) :
    n.magnitudeChecked precision = .ok (n.settled precision).magnitude := by
  cases precision with
  | none => rfl
  | some p =>
    have room : -((Digits.decimal n.magnitude.whole).length : Int) ≤ p := by omega
    have exact : n.magnitude.quantized p = .ok (n.magnitude.rounded p) := by
      refine (FixedPoint.quantized_eq_rounded_iff room).mpr ?_
      exact (rounds p).imp_left Int.ofNat_le.mpr
    simp only [magnitudeChecked, settled, Option.elim_some, quantized, rounded]
    split
    · rw [exact]
      rfl
    · rfl

/-- A magnitude that is found by decimal arithmetic is the rounded one, as long as its own unit is not
too small. -/
theorem magnitudeChecked_sound {n : Number} {precision : Option Nat} {x : FixedPoint}
    (low : n.magnitude.places ≤ 1000026) (ok : n.magnitudeChecked precision = .ok x) :
    x = (n.settled precision).magnitude := by
  cases precision with
  | none => exact (Except.ok.inj ok).symm
  | some p =>
    have room : -((Digits.decimal n.magnitude.whole).length : Int) ≤ p := by omega
    simp only [magnitudeChecked, settled, Option.elim_some, quantized, rounded] at ok ⊢
    split at ok
    · next digits =>
      rw [if_pos digits]
      cases found : n.magnitude.quantized p with
      | error e => rw [found] at ok; cases ok
      | ok y =>
        rw [found] at ok
        cases ok
        by_cases missing : (n.magnitude.places : Int) ≤ p
        · rw [FixedPoint.quantized, if_pos missing] at found
          exact (Except.ok.inj found).symm
        · exact FixedPoint.quantized_sound room (by omega) found
    · next other =>
      rw [if_neg other]
      exact (Except.ok.inj ok).symm

end Number

namespace Style

variable {s : Style} {m : Measures} {n : Number}

theorem integralChecked_eq (s : Style) (spacing : Spacing) (whole : Nat) :
    s.integralChecked spacing.size whole =
      if s.radix = .decimal ∧ 10 ^ Digits.limit ≤ whole then .error (.digits .tooLarge)
      else .ok (s.integral spacing whole) := by
  rw [integralChecked, integral, Radix.ofCode?_code]
  simp only [Radix.textChecked_eq]
  split
  · rfl
  · simp only [Except.mapError_ok, bind, Except.bind]
    cases s.separator.mark? with
    | none => rfl
    | some mark => exact groupChecked_eq mark spacing.size_pos (s.radix.text_ne_nil whole)

/-- The whole part is written in base ten and has too many digits for it. -/
structure Overlong (s : Style) (m : Measures) (n : Number) : Prop where
  digits : n.special = none
  radix : s.radix = .decimal
  large : 10 ^ Digits.limit ≤ (n.settled m.precision).magnitude.whole

theorem pieces_eq (s : Style) (m : Measures) (n : Number) :
    s.pieces m n =
      match n.special with
      | some special => { lead := s.sign.text n.negative, integral := special.text.toList }
      | none =>
        { lead := s.sign.text n.negative ++ s.marker
          integral := s.integral m.spacing (n.settled m.precision).magnitude.whole
          tail := if (n.settled m.precision).magnitude.places = 0 then []
            else s.point :: (n.settled m.precision).magnitude.fraction.chars } :=
  rfl

theorem piecesChecked_of_overlong (rounds : n.Rounds) (overlong : s.Overlong m n) :
    s.piecesChecked m n = .error (.digits .tooLarge) := by
  simp only [piecesChecked, overlong.digits, n.magnitudeChecked_eq rounds, bind, Except.bind,
    s.integralChecked_eq, if_pos (And.intro overlong.radix overlong.large)]

theorem piecesChecked_eq (rounds : n.Rounds) (short : ¬ s.Overlong m n) :
    s.piecesChecked m n = .ok (s.pieces m n) := by
  rw [piecesChecked, pieces_eq]
  cases special : n.special with
  | some special => rfl
  | none =>
    simp only [n.magnitudeChecked_eq rounds, bind, Except.bind, s.integralChecked_eq]
    rw [if_neg fun both => short ⟨special, both.1, both.2⟩]
    rfl

theorem piecesChecked_sound {p : Pieces} (low : n.magnitude.places ≤ 1000026)
    (ok : s.piecesChecked m n = .ok p) : p = s.pieces m n := by
  rw [piecesChecked] at ok
  rw [pieces_eq]
  cases special : n.special with
  | some special =>
    rw [special] at ok
    exact (Except.ok.inj ok).symm
  | none =>
    simp only [special, Except.bind_eq_ok] at ok
    obtain ⟨x, magnitude, integral, integralOk, made⟩ := ok
    rw [s.integralChecked_eq] at integralOk
    split at integralOk
    · cases integralOk
    · obtain rfl := Except.ok.inj integralOk
      obtain rfl := Number.magnitudeChecked_sound low magnitude
      exact (Except.ok.inj made).symm

end Style

namespace Margin

variable (m : Margin) (width : Nat) (p : Pieces)

theorem pad_eq_assemble : m.pad width p = m.assemble (fillRun m.fill (width - m.counted p)) p := by
  cases m with
  | plain align => rfl
  | filled c align => rfl
  | zeros atPoint => rfl

/-- The characters whose cost is asked for: those that count toward the width, and the fill if they
leave some of the width over. -/
def asked : List Char :=
  m.countedText p ++ if m.counted p < width then [m.fill] else []

end Margin

namespace Style

variable {s : Style} {m : Measures} {n : Number}

/-- Of the characters whose cost is asked for, the first one without a form in UTF-8 is the one that
the writing fails on. -/
theorem writeChecked_of_pieces {p : Pieces} (found : s.piecesChecked m n = .ok p) :
    s.writeChecked encodable m n =
      match (s.margin.asked m.width p).find? (!encodable ·) with
      | some c => .error (.unencodable c)
      | none => .ok (s.margin.pad m.width p) := by
  simp only [writeChecked, found, bind, Except.bind, costChecked_eq, Margin.asked, List.find?_append]
  cases (s.margin.countedText p).find? (!encodable ·) with
  | some c => rfl
  | none =>
    simp only [← Margin.counted_eq, fillRunChecked_eq, Margin.pad_eq_assemble, Nat.sub_pos_iff_lt,
      Option.none_or]
    by_cases some : s.margin.counted p < m.width
    · cases form : encodable s.margin.fill <;>
        simp [some, form, pure, Except.pure]
    · simp [some, pure, Except.pure]

theorem writeChecked_of_overlong (rounds : n.Rounds) (overlong : s.Overlong m n) :
    s.writeChecked encodable m n = .error (.digits .tooLarge) := by
  rw [writeChecked, piecesChecked_of_overlong rounds overlong]
  rfl

theorem writeChecked_eq (rounds : n.Rounds) (short : ¬ s.Overlong m n) :
    s.writeChecked encodable m n =
      match (s.margin.asked m.width (s.pieces m n)).find? (!encodable ·) with
      | some c => .error (.unencodable c)
      | none => .ok (s.write m n) :=
  writeChecked_of_pieces (piecesChecked_eq rounds short)

/-- What is written by operations that can be refused is what is written. -/
theorem writeChecked_sound {out : List Char} (low : n.magnitude.places ≤ 1000026)
    (ok : s.writeChecked encodable m n = .ok out) : out = s.write m n := by
  cases pieces : s.piecesChecked m n with
  | error e => rw [writeChecked, pieces] at ok; cases ok
  | ok p =>
    obtain rfl := piecesChecked_sound low pieces
    rw [writeChecked_of_pieces pieces] at ok
    split at ok
    · cases ok
    · exact (Except.ok.inj ok).symm

end Style

end Numeral
