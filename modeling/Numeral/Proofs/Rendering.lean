import Numeral.Datum.Writing
import Numeral.Outcome

namespace Numeral

/-- Quantities are settled once width and precision are. -/
theorem Style.measures_eq_ok_iff {s : Style} {o : Overrides} {m : Measures} :
    s.measures o = .ok m ↔
      o.precisionFor s = .ok m.precision ∧ (∃ w, o.widthFor s = .ok w ∧ m.width = w.getD 0) ∧
        m.spacing = o.spacingFor s := by
  unfold measures
  simp only [Except.bind_eq_ok]
  constructor
  · rintro ⟨w, width, precision, precisionOk, made⟩
    cases made
    exact ⟨precisionOk, ⟨w, width, rfl⟩, rfl⟩
  · rintro ⟨precision, ⟨w, width, atWidth⟩, spacing⟩
    refine ⟨w, width, m.precision, precision, ?_⟩
    rw [← atWidth, ← spacing]
    rfl

namespace Datum

/-- With a style and values to supply, the quantities are settled first and the datum is looked at
last. -/
theorem render_style {given : Datum} {o : Overrides} (supplied : given.toOverrides = .ok o)
    (s : Style) (value : Datum) :
    Datum.render (.style s) value given = (do
      let m ← (s.measures o).mapError .missing
      let n ← (value.toNumber false).mapError .conversion
      pure (String.ofList (s.write m n))) := by
  rw [render, supplied]
  rfl

theorem renderChecked_style (encodable : Char → Bool) {given : Datum} {o : Overrides}
    (supplied : given.toOverrides = .ok o) (s : Style) (value : Datum) :
    renderChecked encodable (.style s) value given = (do
      let m ← (s.measures o).mapError .missing
      let n ← (value.toNumber false).mapError .conversion
      let text ← (s.writeChecked encodable m n).mapError .undefined
      pure (String.ofList text)) := by
  rw [renderChecked, supplied]
  rfl

theorem renderChecked_of_settled {encodable : Char → Bool} {s : Style} {given value : Datum}
    {o : Overrides} {m : Measures} {n : Number} {text : List Char}
    (supplied : given.toOverrides = .ok o) (settled : s.measures o = .ok m)
    (number : value.toNumber false = .ok n) (written : s.writeChecked encodable m n = .ok text) :
    renderChecked encodable (.style s) value given = .ok (String.ofList text) := by
  rw [renderChecked_style encodable supplied, settled, number]
  simp only [Except.mapError_ok, bind, Except.bind, written]
  rfl

/-- A datum is written if the quantities are settled and the datum is a number. -/
theorem render_given_eq_ok_iff {s : Style} {given value : Datum} {out : String} :
    Datum.render (.style s) value given = .ok out ↔
      ∃ o m n, given.toOverrides = .ok o ∧ s.measures o = .ok m ∧ value.toNumber false = .ok n ∧
        String.ofList (s.write m n) = out := by
  unfold render
  simp only [Except.bind_eq_ok, Except.mapError_eq_ok]
  constructor
  · rintro ⟨_, style, o, supplied, m, settled, n, number, made⟩
    cases style
    exact ⟨o, m, n, supplied, settled, number, Except.ok.inj made⟩
  · rintro ⟨o, m, n, supplied, settled, number, rfl⟩
    exact ⟨s, rfl, o, supplied, m, settled, n, number, rfl⟩

theorem render_of_settled {s : Style} {given value : Datum} {o : Overrides} {m : Measures}
    {n : Number} (supplied : given.toOverrides = .ok o) (settled : s.measures o = .ok m)
    (number : value.toNumber false = .ok n) :
    Datum.render (.style s) value given = .ok (String.ofList (s.write m n)) :=
  render_given_eq_ok_iff.mpr ⟨o, m, n, supplied, settled, number, rfl⟩

theorem render_eq_ok_iff {s : Style} {o : Overrides} {value : Datum} {out : String} :
    Datum.render (.style s) value (.overrides o) = .ok out ↔
      ∃ m n, s.measures o = .ok m ∧ value.toNumber false = .ok n ∧
        String.ofList (s.write m n) = out := by
  rw [render_given_eq_ok_iff]
  constructor
  · rintro ⟨_, m, n, ⟨⟩, settled, number, made⟩
    exact ⟨m, n, settled, number, made⟩
  · rintro ⟨m, n, settled, number, made⟩
    exact ⟨o, m, n, rfl, settled, number, made⟩

/-- Writes a datum with all its quantities as they are settled, except that the width is zero. -/
def renderUnpadded (s : Style) (value : Datum) (o : Overrides) : Except Failure String :=
  Datum.render (.style { s with width := .fixed 0 }) value (.overrides { o with width := .none })

/-- Without a width there is no padding, and it takes no more than a settled precision. -/
theorem renderUnpadded_eq {s : Style} {o : Overrides} {value : Datum} {precision : Option Nat}
    {n : Number} (settled : o.precisionFor s = .ok precision)
    (number : value.toNumber false = .ok n) :
    renderUnpadded s value o =
      .ok (String.ofList (s.margin.pad 0 (s.pieces { precision, spacing := o.spacingFor s } n))) := by
  refine render_eq_ok_iff.mpr ⟨{ width := 0, precision, spacing := o.spacingFor s }, n, ?_, number,
    rfl⟩
  exact Style.measures_eq_ok_iff.mpr ⟨settled, ⟨some 0, rfl, rfl⟩, rfl⟩

end Datum

end Numeral
