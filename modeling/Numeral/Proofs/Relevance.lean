import Numeral.Proofs.Padding

namespace Numeral

theorem Number.rounded_of_not_float {n : Number} (float : n.isFloat = false)
    (precision : Option Nat) : (precision.elim n fun p => n.rounded p) = n := by
  cases precision with
  | none => rfl
  | some p => simp [rounded, float]

/-- Two styles with their quantities agree on all that matters for a number. The width and the rule for
signs always matter. The precision and the point matter for a number that may have a fraction; base,
base marker and separator for one with digits, and the size of a group where there is a separator. The
margin matters where the integral digits leave some of the width unused. -/
structure Style.Agrees (s t : Style) (m k : Measures) (n : Number) : Prop where
  width : m.width = k.width
  sign : s.sign = t.sign
  precision : n.isFloat = true → n.isFinite = true → m.precision = k.precision
  point : n.isFloat = true → n.isFinite = true → s.point = t.point
  radix : n.isFinite = true → s.radix = t.radix
  alternate : n.isFinite = true → s.alternate = t.alternate
  mark : n.isFinite = true → s.separator.mark? = t.separator.mark?
  spacing : n.isFinite = true → s.separator.mark? ≠ none → m.spacing = k.spacing
  margin : (String.ofList (s.pieces m n).integral).utf8ByteSize < m.width → s.margin = t.margin

namespace Style.Agrees

variable {s t : Style} {m k : Measures} {n : Number}

theorem marker (agrees : s.Agrees t m k n) (finite : n.isFinite = true) : s.marker = t.marker := by
  rw [Style.marker, Style.marker, agrees.alternate finite, agrees.radix finite]

/-- Without a separator the size of a group is not looked at. -/
theorem integral (agrees : s.Agrees t m k n) (finite : n.isFinite = true) (whole : Nat) :
    s.integral m.spacing whole = t.integral k.spacing whole := by
  have spacing := agrees.spacing finite
  unfold Style.integral
  rw [agrees.radix finite]
  rw [agrees.mark finite] at spacing ⊢
  cases mark : t.separator.mark? with
  | none => rfl
  | some c => rw [spacing (by rw [mark]; nofun)]

/-- An integer is not rounded. -/
theorem rounded (agrees : s.Agrees t m k n) (finite : n.isFinite = true) :
    (m.precision.elim n fun p => n.rounded p) = k.precision.elim n fun p => n.rounded p := by
  cases float : n.isFloat with
  | true => rw [agrees.precision float finite]
  | false =>
    rw [Number.rounded_of_not_float float, Number.rounded_of_not_float float]

/-- A number is put together from the same parts. An integer has no fraction, so that no point
stands behind it. -/
theorem pieces (agrees : s.Agrees t m k n)
    (whole : n.isFloat = false → n.magnitude.places = 0) : s.pieces m n = t.pieces k n := by
  unfold Style.pieces
  rw [agrees.sign]
  cases special : n.special with
  | some special => rfl
  | none =>
    have finite : n.isFinite = true := by rw [Number.isFinite, special]; rfl
    simp only [agrees.marker finite, agrees.integral finite, agrees.rounded finite]
    cases float : n.isFloat with
    | true => rw [agrees.point float finite]
    | false =>
      have kept := Number.rounded_of_not_float float k.precision
      simp only [kept, whole float, if_true]

/-- Where nothing of the width is left the margin is not looked at. -/
theorem write (agrees : s.Agrees t m k n) (whole : n.isFloat = false → n.magnitude.places = 0) :
    s.write m n = t.write k n := by
  have pieces := agrees.pieces whole
  unfold Style.write
  by_cases room : (String.ofList (s.pieces m n).integral).utf8ByteSize < m.width
  · rw [agrees.margin room, agrees.width, pieces]
  · have full (margin : Margin) : m.width ≤ margin.counted (s.pieces m n) := by
      rw [← cost_eq_utf8ByteSize] at room
      unfold Margin.counted
      omega
    rw [Margin.pad_of_le (full s.margin), ← agrees.width, ← pieces, Margin.pad_of_le (full t.margin)]

end Style.Agrees

namespace Datum

/-- A datum that is written stands for an integer or for a floating point number. -/
theorem toPlain_of_toNumber {value : Datum} {n : Number} (number : value.toNumber false = .ok n) :
    (∃ i, value.toPlain false = .ok (.int i) ∧ n = .ofInt i) ∨
      ∃ x magnitude, value.toPlain false = .ok (.float x) ∧ n = .ofFloat x magnitude := by
  unfold toNumber at number
  obtain ⟨plain, found, made⟩ := Except.bind_eq_ok.mp number
  cases plain with
  | int i => exact Or.inl ⟨i, found, (Except.ok.inj made).symm⟩
  | float x =>
    refine Or.inr ⟨x, ?_⟩
    dsimp only at made
    split at made
    · obtain ⟨magnitude, _, made⟩ := Except.bind_eq_ok.mp made
      exact ⟨magnitude, found, (Except.ok.inj made).symm⟩
    · exact ⟨⟨0, 0⟩, found, (Except.ok.inj made).symm⟩

section

variable {value : Datum} {n : Number}

theorem isFloat_eq_false_iff (number : value.toNumber false = .ok n) :
    n.isFloat = false ↔ ∃ i, value.toPlain false = .ok (.int i) := by
  rcases toPlain_of_toNumber number with ⟨i, integer, rfl⟩ | ⟨x, magnitude, float, rfl⟩
  · exact ⟨fun _ => ⟨i, integer⟩, fun _ => rfl⟩
  · rw [Number.isFloat_ofFloat, float]
    exact ⟨nofun, nofun⟩

theorem isFinite_eq_false_iff (number : value.toNumber false = .ok n) :
    n.isFinite = false ↔ ∃ x, value.toPlain false = .ok (.float x) ∧ x.isFinite = false := by
  rcases toPlain_of_toNumber number with ⟨i, integer, rfl⟩ | ⟨x, magnitude, float, rfl⟩
  · rw [integer]
    exact ⟨nofun, nofun⟩
  · rw [Number.isFinite_ofFloat, float]
    constructor
    · exact fun special => ⟨x, rfl, special⟩
    · rintro ⟨_, ⟨⟩, special⟩
      exact special

/-- An integer has no fraction. -/
theorem places_of_not_float (number : value.toNumber false = .ok n) (float : n.isFloat = false) :
    n.magnitude.places = 0 := by
  rcases toPlain_of_toNumber number with ⟨i, _, rfl⟩ | ⟨x, magnitude, _, rfl⟩
  · rfl
  · rw [Number.isFloat_ofFloat] at float
    cases float

end

/-- Two writings of one datum are the same text whenever styles and quantities agree on all that
matters for it. An integer has no fraction, so that neither precision nor point matters; an infinite
number and a NaN have no digits, so that base, base marker, separator and size of a group do not
matter either. The size of a group matters only where there is a separator, and it makes no difference
whether a separator is left open or ruled out. Fill, alignment and padding do not matter where the
integral digits with their separators, or the letters in place of digits, are as wide as asked for. -/
theorem render_ignores {s t : Style} {given supplied value : Datum} {out other : String}
    (left : Datum.render (.style s) value given = .ok out)
    (right : Datum.render (.style t) value supplied = .ok other) :
    ∃ (o u : Overrides) (m k : Measures) (n : Number),
      given.toOverrides = .ok o ∧ s.measures o = .ok m ∧
      supplied.toOverrides = .ok u ∧ t.measures u = .ok k ∧
      value.toNumber false = .ok n ∧
      (n.isFloat = false ↔ ∃ i, value.toPlain false = .ok (.int i)) ∧
      (n.isFinite = false ↔ ∃ x, value.toPlain false = .ok (.float x) ∧ x.isFinite = false) ∧
      (s.Agrees t m k n → out = other) := by
  obtain ⟨o, m, n, atLeft, settled, number, rfl⟩ := render_given_eq_ok_iff.mp left
  obtain ⟨u, k, same, atRight, settled', number', rfl⟩ := render_given_eq_ok_iff.mp right
  obtain rfl : n = same := Except.ok.inj (number.symm.trans number')
  refine ⟨o, u, m, k, n, atLeft, settled, atRight, settled', number, isFloat_eq_false_iff number,
    isFinite_eq_false_iff number, fun agrees => ?_⟩
  rw [agrees.write (places_of_not_float number)]

/-- Five digits fill a width of five, whatever would pad them. The sign stands outside one margin and
the other one puts it before its zeros. -/
theorem render_ignores_margin :
    let s : Style := { margin := .filled '🖤' .center, width := .fixed 5, precision := .fixed 4,
                       separator := .off, spacing := ⟨2, by decide⟩, point := '€' }
    let t : Style := { margin := .zeros true, width := .deferred, precision := .deferred }
    let u : Overrides := { width := some 5, precision := some 7, spacing := some ⟨1, by decide⟩ }
    Datum.render (.style s) (.int (-12345)) .none = .ok "-12345" ∧
      Datum.render (.style t) (.int (-12345)) (.overrides u) = .ok "-12345" ∧
      ∃ m k n, s.measures {} = .ok m ∧ t.measures u = .ok k ∧
        (Datum.int (-12345)).toNumber false = .ok n ∧ s.Agrees t m k n := by
  intro s t u
  let m : Measures := { width := 5, precision := some 4, spacing := s.spacing }
  let k : Measures := { width := 5, precision := some 7, spacing := ⟨1, by decide⟩ }
  have agrees : s.Agrees t m k (.ofInt (-12345)) :=
    ⟨rfl, rfl, nofun, nofun, fun _ => rfl, fun _ => rfl, fun _ => rfl, fun _ some => absurd rfl some,
      fun room => absurd room (by decide +kernel)⟩
  have left : Datum.render (.style s) (.int (-12345)) .none = .ok "-12345" :=
    render_given_eq_ok_iff.mpr ⟨{}, m, .ofInt (-12345), rfl, rfl, rfl, by decide +kernel⟩
  have written : Datum.render (.style t) (.int (-12345)) (.overrides u) =
      .ok (String.ofList (t.write k (.ofInt (-12345)))) :=
    render_eq_ok_iff.mpr ⟨k, .ofInt (-12345), rfl, rfl, rfl⟩
  obtain ⟨_, _, _, _, _, ⟨⟩, ⟨⟩, ⟨⟩, ⟨⟩, ⟨⟩, _, _, same⟩ := render_ignores left written
  rw [← same agrees] at written
  exact ⟨left, written, m, k, .ofInt (-12345), rfl, rfl, rfl, agrees⟩

end Datum

end Numeral
