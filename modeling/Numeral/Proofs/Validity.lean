import Numeral.Draft.Lemmas

namespace Numeral

theorem PadMode.text_inj {m n : PadMode} : m.text = n.text ↔ m = n := by
  cases m <;> cases n <;> decide

/-- A width or precision is unset, deferred, or a whole number that is not negative. -/
def Datum.IsCount (d : Datum) : Prop :=
  d = .unset ∨ d = .deferred ∨ ∃ n : Int, d.int? = some n ∧ 0 ≤ n

theorem Datum.isCount_iff {d : Datum} : d.IsCount ↔ ∃ n, d.Counts n := by
  constructor
  · rintro (unset | deferred | ⟨n, number, enough⟩)
    · exact ⟨.unset, unset⟩
    · exact ⟨.deferred, deferred⟩
    · refine ⟨.fixed n.toNat, ?_⟩
      rw [Counts, number, Int.toNat_of_nonneg enough]
  · rintro ⟨n, counts⟩
    cases n with
    | unset => exact Or.inl counts
    | deferred => exact Or.inr (Or.inl counts)
    | fixed n => exact Or.inr (Or.inr ⟨n, counts, Int.natCast_nonneg n⟩)

/-- A separator is unset, absent or a character. -/
theorem Datum.isSeparator_iff {d : Datum} :
    (d = .unset ∨ d = .none ∨ ∃ c, d = .char c) ↔ ∃ s : Separator, d = s.toDatum := by
  constructor
  · rintro (unset | off | ⟨c, char⟩)
    · exact ⟨.unset, unset⟩
    · exact ⟨.off, off⟩
    · exact ⟨.char c, char⟩
  · rintro ⟨s, rfl⟩
    cases s with
    | unset => exact Or.inl rfl
    | off => exact Or.inr (Or.inl rfl)
    | char c => exact Or.inr (Or.inr ⟨c, rfl⟩)

/-- The size of a group is a whole number from one on. -/
theorem Datum.isSpacing_iff {d : Datum} :
    (∃ n : Int, d.int? = some n ∧ 1 ≤ n) ↔ ∃ s : Spacing, d.int? = some (s.size : Int) := by
  constructor
  · rintro ⟨n, number, least⟩
    have positive : 0 < n.toNat := by omega
    exact ⟨⟨n.toNat, positive⟩, by rw [number, Int.toNat_of_nonneg (by omega)]⟩
  · rintro ⟨s, number⟩
    have positive := s.size_pos
    exact ⟨_, number, by omega⟩

/-- The fields of a draft are in order, each of them alone and mode, fill and alignment together. A
member of an enumeration counts as its text. -/
structure Draft.Valid (d : Draft) : Prop where
  fill : ∃ c, d .fill = .char c
  point : ∃ c, d .point = .char c
  separator : d .separator = .unset ∨ d .separator = .none ∨ ∃ c, d .separator = .char c
  align : ∃ a : Align, d .align = .char a.char
  sign : ∃ r : SignRule, d .sign = .char r.char
  mode : ∃ m : PadMode, d .mode = .str m.text
  radix : ∃ r : Radix, d .radix = .char r.code
  alternate : ∃ b, d .alternate = .bool b
  width : (d .width).IsCount
  precision : (d .precision).IsCount
  spacing : ∃ n : Int, (d .spacing).int? = some n ∧ 1 ≤ n
  plain : d .mode = .str PadMode.plain.text → d .fill = .char ' '
  zeros : d .mode = .str PadMode.zeros.text → d .fill = .char '0' ∧
    (d .align = .char Align.right.char ∨ d .align = .char Align.decimal.char)

namespace Draft

variable {d : Draft} {s : Style}

theorem States.valid (states : d.States s) : d.Valid where
  fill := ⟨_, states.fill⟩
  point := ⟨_, states.point⟩
  separator := Datum.isSeparator_iff.mpr ⟨_, states.separator⟩
  align := ⟨_, states.align⟩
  sign := ⟨_, states.sign⟩
  mode := ⟨_, states.mode⟩
  radix := ⟨_, states.radix⟩
  alternate := ⟨_, states.alternate⟩
  width := Datum.isCount_iff.mpr ⟨_, states.width⟩
  precision := Datum.isCount_iff.mpr ⟨_, states.precision⟩
  spacing := Datum.isSpacing_iff.mpr ⟨_, states.spacing⟩
  plain stated := by
    have mode : s.margin.mode = .plain :=
      PadMode.text_inj.mp (Datum.str.inj (states.mode.symm.trans stated))
    rw [states.fill]
    cases margin : s.margin with
    | plain a => rfl
    | filled c a | zeros atPoint => rw [margin] at mode; cases mode
  zeros stated := by
    have mode : s.margin.mode = .zeros :=
      PadMode.text_inj.mp (Datum.str.inj (states.mode.symm.trans stated))
    rw [states.fill, states.align]
    cases margin : s.margin with
    | zeros atPoint =>
      cases atPoint with
      | false => exact ⟨rfl, Or.inl rfl⟩
      | true => exact ⟨rfl, Or.inr rfl⟩
    | plain a | filled c a => rw [margin] at mode; cases mode

/-- A margin can be made of parts that fit together. -/
theorem Valid.margin (valid : d.Valid) : ∃ m : Margin, d .mode = .str m.mode.text ∧
    d .fill = .char m.fill ∧ d .align = .char m.align.char := by
  obtain ⟨mode, atMode⟩ := valid.mode
  obtain ⟨fill, atFill⟩ := valid.fill
  obtain ⟨align, atAlign⟩ := valid.align
  cases mode with
  | plain => exact ⟨.plain align, atMode, valid.plain atMode, atAlign⟩
  | filled => exact ⟨.filled fill align, atMode, atFill, atAlign⟩
  | zeros =>
    obtain ⟨zero, right | decimal⟩ := valid.zeros atMode
    · exact ⟨.zeros false, atMode, zero, right⟩
    · exact ⟨.zeros true, atMode, zero, decimal⟩

/-- The fields of a draft are in order exactly if they state some style. -/
theorem valid_iff : d.Valid ↔ ∃ s, d.States s := by
  refine ⟨fun valid => ?_, fun ⟨s, states⟩ => states.valid⟩
  obtain ⟨margin, mode, fill, align⟩ := valid.margin
  obtain ⟨point, atPoint⟩ := valid.point
  obtain ⟨sign, atSign⟩ := valid.sign
  obtain ⟨radix, atRadix⟩ := valid.radix
  obtain ⟨alternate, atAlternate⟩ := valid.alternate
  obtain ⟨width, atWidth⟩ := Datum.isCount_iff.mp valid.width
  obtain ⟨precision, atPrecision⟩ := Datum.isCount_iff.mp valid.precision
  obtain ⟨separator, atSeparator⟩ := Datum.isSeparator_iff.mp valid.separator
  obtain ⟨spacing, atSpacing⟩ := Datum.isSpacing_iff.mp valid.spacing
  exact ⟨{ margin, sign, alternate, width, precision, radix, separator, spacing, point },
    { fill, align, mode, sign := atSign, alternate := atAlternate, width := atWidth,
      precision := atPrecision, radix := atRadix, separator := atSeparator, spacing := atSpacing,
      point := atPoint }⟩

end Draft

end Numeral
