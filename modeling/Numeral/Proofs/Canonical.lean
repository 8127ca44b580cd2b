import Numeral.Pattern.Canonical
import Numeral.Proofs.Grammar

namespace Numeral

/-- The conditions on which some pattern says what a style says, in the fields of the style. -/
structure Style.Expressible (s : Style) : Prop where
  fill : ∀ c a, s.margin = .filled c a → ∀ b : Align, b.char ≠ c
  zeros : s.margin.mode = .zeros → s.width ≠ .unset
  width : s.width ≠ .fixed 0
  spacing : s.separator = .unset → s.spacing = .thousands
  off : s.separator ≠ .off
  separator : ∀ c, s.separator = .char c → ∃ m : GroupMark, m.char = c
  point : s.point = '.'
  fewWidth : ∀ n, s.width = .fixed n → n < 10 ^ Digits.limit
  fewPrecision : ∀ n, s.precision = .fixed n → n < 10 ^ Digits.limit
  fewSpacing : s.spacing.size < 10 ^ Digits.limit

theorem Digits.value_pos {d : Digit} {ds : Digits 10} (leading : d ≠ 0) :
    0 < Digits.value (d :: ds) := by
  have least : 10 ^ ds.length ≤ Digits.value (d :: ds) :=
    pow_le_value (Nat.pos_of_ne_zero fun zero => leading (Fin.ext zero))
  have positive : 0 < 10 ^ ds.length := Nat.pow_pos (by decide)
  omega

theorem Digits.decimal_leading {n : Nat} (positive : 0 < n) :
    ∃ d ds, Digits.decimal n = d :: ds ∧ d ≠ 0 := by
  obtain ⟨d, ds, written, leading⟩ := Digits.head_ofNat (b := 10) (by decide) positive
  refine ⟨d, ds, written, fun zero => ?_⟩
  rw [zero] at leading
  exact Nat.lt_irrefl 0 leading

/-- A run of few digits denotes a number of few digits. -/
theorem Digits.value_lt_pow {most : Nat} {ds : Digits 10} (few : ds.length ≤ most) :
    ds.value < 10 ^ most :=
  Nat.lt_of_lt_of_le (value_lt ds) (Nat.pow_le_pow_right (by decide) few)

theorem Digits.stated_eq_ok_iff {n : Nat} {run : Digits 10} :
    stated n = .ok run ↔ n < 10 ^ limit ∧ decimal n = run := by
  rw [stated, Except.mapError_eq_ok, written_eq_ok_iff]

theorem Digits.map_stated_eq_ok_iff {α : Type} {f : Digits 10 → α} {n : Nat} {a : α} :
    (stated n).map f = .ok a ↔ n < 10 ^ limit ∧ f (decimal n) = a := by
  cases outcome : stated n with
  | error e =>
    refine ⟨nofun, fun ok => ?_⟩
    rw [stated_eq_ok_iff.mpr ⟨ok.1, rfl⟩] at outcome
    cases outcome
  | ok run =>
    obtain ⟨few, rfl⟩ := stated_eq_ok_iff.mp outcome
    exact ⟨fun ok => ⟨few, Except.ok.inj ok⟩, fun ok => congrArg _ ok.2⟩

namespace Pattern

theorem WellFormed.zero_of_mode {p : Pattern} (mode : p.margin.mode = .zeros) : p.zero = true := by
  unfold margin at mode
  cases zero : p.zero with
  | true => rfl
  | false =>
    rw [zero] at mode
    cases flags : p.flags <;> rw [flags] at mode <;> cases mode

theorem WellFormed.flags_of_margin {p : Pattern} {c : Char} {a : Align}
    (filled : p.margin = .filled c a) : p.flags = .pair c a := by
  unfold margin at filled
  cases flags : p.flags with
  | pair d b =>
    rw [flags] at filled
    cases filled
    rfl
  | align | none =>
    rw [flags] at filled
    cases zero : p.zero <;> rw [zero] at filled <;> cases filled

/-- A count that is fixed is the value of the digits that were written. -/
theorem digits_of_setting {count : Option Count} {n : Nat}
    (fixed : (count.map Count.setting).getD .unset = .fixed n) :
    ∃ run, count = some (.digits run) ∧ Digits.value run = n := by
  cases count with
  | none => cases fixed
  | some count =>
    cases count with
    | deferred => cases fixed
    | digits run => exact ⟨run, rfl, Setting.fixed.inj fixed⟩

/-- What a pattern says can be said by a pattern: none of the obstacles to a canonical text is the
meaning of any groups. -/
theorem WellFormed.expressible {p : Pattern} (wf : p.WellFormed)
    (legible : p.Legible Digits.limit) : p.style.Expressible where
  fill c a filled := wf.fill c a (flags_of_margin filled)
  zeros mode absent := by
    obtain ⟨present, _⟩ := wf.zero (zero_of_mode mode)
    cases width : p.width with
    | none => exact present width
    | some n => cases n <;> simp [style, width, Count.setting] at absent
  width zero := by
    obtain ⟨run, width, none⟩ := digits_of_setting zero
    obtain ⟨d, ds, rfl, leading⟩ := wf.width run width
    have positive : 0 < Digits.value (d :: ds) := Digits.value_pos leading
    omega
  spacing unset := by
    cases grouping : p.grouping with
    | none => simp [style, grouping]
    | some g => simp [style, grouping] at unset
  off off := by
    cases grouping : p.grouping <;> simp [style, grouping] at off
  separator c separator := by
    cases grouping : p.grouping with
    | none => simp [style, grouping] at separator
    | some g =>
      simp only [style, grouping, Option.map_some, Option.getD_some, Separator.char.injEq]
        at separator
      exact ⟨g.mark, separator⟩
  point := rfl
  fewWidth n fixed := by
    obtain ⟨run, width, rfl⟩ := digits_of_setting fixed
    exact Digits.value_lt_pow (legible.width run width)
  fewPrecision n fixed := by
    obtain ⟨run, precision, rfl⟩ := digits_of_setting fixed
    exact Digits.value_lt_pow (legible.precision run precision)
  fewSpacing := by
    have three : Spacing.thousands.size < 10 ^ Digits.limit :=
      @Digits.value_lt_pow _ [3] Digits.limit_pos
    cases grouping : p.grouping with
    | none => simpa [style, grouping] using three
    | some g =>
      simp only [style, grouping, Option.map_some, Option.getD_some]
      by_cases empty : g.run = []
      · rwa [Grouping.spacing, if_pos empty]
      · rw [Grouping.spacing_size empty (wf.spacing g grouping empty)]
        exact Digits.value_lt_pow (legible.spacing g grouping)

end Pattern

/-- The canonical flags of a margin say what the margin says. -/
theorem Margin.flags_sound {m : Margin} {f : Flags} {zero : Bool} (ok : m.flags = .ok (f, zero)) :
    (∀ c a, f = .pair c a → ∀ b : Align, b.char ≠ c) ∧
      (zero = true → m.mode = .zeros ∧ ∀ c a, f ≠ .pair c a) ∧
      ∀ p : Pattern, p.flags = f → p.zero = zero → p.margin = m := by
  cases m with
  | plain a =>
    cases a <;> cases ok <;> refine ⟨nofun, nofun, fun p flags zero => ?_⟩ <;>
      rw [Pattern.margin, flags, zero]
  | filled c a =>
    rw [flags] at ok
    split at ok
    · cases ok
    · next other =>
      cases ok
      refine ⟨fun d b pair => ?_, nofun, fun p flags zero => ?_⟩
      · cases pair
        exact Align.ofChar?_eq_none_iff.mp other
      · rw [Pattern.margin, flags]
  | zeros atPoint =>
    cases atPoint with
    | false =>
      cases ok
      refine ⟨nofun, fun _ => ⟨rfl, nofun⟩, fun p flags zero => ?_⟩
      rw [Pattern.margin, flags, zero]
    | true =>
      cases ok
      refine ⟨nofun, fun _ => ⟨rfl, nofun⟩, fun p flags zero => ?_⟩
      rw [Pattern.margin, flags, zero]
      rfl

theorem Margin.flags_total {m : Margin}
    (fill : ∀ c a, m = .filled c a → ∀ b : Align, b.char ≠ c) :
    ∃ found, m.flags = .ok found := by
  cases m with
  | plain a => cases a <;> exact ⟨_, rfl⟩
  | filled c a =>
    refine ⟨(.pair c a, false), ?_⟩
    simp only [flags, Align.ofChar?_eq_none_iff.mpr (fill c a rfl)]
  | zeros atPoint => cases atPoint <;> exact ⟨_, rfl⟩

namespace Style

theorem zeroFilled_iff {s : Style} : s.zeroFilled = true ↔ s.margin.mode = .zeros :=
  decide_eq_true_iff

theorem widthGroup_sound {s : Style} {n : Option Count} (ok : s.widthGroup = .ok n) :
    (s.margin.mode = .zeros → n ≠ none) ∧
      (∀ run, n = some (.digits run) → (∃ d ds, run = d :: ds ∧ d ≠ 0) ∧
        run.length ≤ Digits.limit) ∧
      (n.map Count.setting).getD .unset = s.width := by
  unfold widthGroup at ok
  split at ok
  · next width =>
    split at ok
    · cases ok
    · next other =>
      cases ok
      exact ⟨fun mode => absurd (zeroFilled_iff.mpr mode) other, nofun, width.symm⟩
  · next width =>
    cases ok
    exact ⟨nofun, nofun, width.symm⟩
  · cases ok
  · next k nonzero width =>
    obtain ⟨few, rfl⟩ := Digits.map_stated_eq_ok_iff.mp ok
    refine ⟨nofun, fun run digits => ?_, ?_⟩
    · cases digits
      exact ⟨Digits.decimal_leading (Nat.pos_of_ne_zero nonzero),
        Digits.length_decimal_le Digits.limit_pos few⟩
    · rw [width]
      simp only [Option.map_some, Option.getD_some, Count.setting, Digits.decimal,
        Digits.value_ofNat]

theorem precisionGroup_sound {s : Style} {n : Option Count} (ok : s.precisionGroup = .ok n) :
    (∀ run, n = some (.digits run) → run ≠ [] ∧ run.length ≤ Digits.limit) ∧
      (n.map Count.setting).getD .unset = s.precision := by
  unfold precisionGroup at ok
  split at ok
  · next precision =>
    cases ok
    exact ⟨nofun, precision.symm⟩
  · next precision =>
    cases ok
    exact ⟨nofun, precision.symm⟩
  · next k precision =>
    obtain ⟨few, rfl⟩ := Digits.map_stated_eq_ok_iff.mp ok
    refine ⟨fun run digits => ?_, ?_⟩
    · cases digits
      exact ⟨Digits.ofNat_ne_nil _ _, Digits.length_decimal_le Digits.limit_pos few⟩
    · rw [precision]
      simp only [Option.map_some, Option.getD_some, Count.setting, Digits.decimal,
        Digits.value_ofNat]

theorem separatorGroup_sound {s : Style} {g : Option Grouping} (ok : s.separatorGroup = .ok g) :
    (∀ g', g = some g' → (g'.run ≠ [] → 0 < g'.run.value) ∧ g'.run.length ≤ Digits.limit) ∧
      (g.map fun g => Separator.char g.mark.char).getD .unset = s.separator ∧
      (g.map Grouping.spacing).getD .thousands = s.spacing := by
  unfold separatorGroup at ok
  split at ok
  · next separator =>
    split at ok
    · next spacing =>
      cases ok
      exact ⟨nofun, separator.symm, spacing.symm⟩
    · cases stated : Digits.stated s.spacing.size <;> rw [stated] at ok <;> cases ok
  · cases ok
  · next c separator =>
    split at ok
    · cases ok
    · next mark found =>
      have written := GroupMark.ofChar?_eq_some_iff.mp found
      have value : Digits.value (Digits.decimal s.spacing.size) = s.spacing.size :=
        Digits.value_ofNat _ _
      split at ok
      · next thousands =>
        cases ok
        refine ⟨fun g' same => ?_, ?_, ?_⟩
        · cases same
          exact ⟨fun nonempty => absurd rfl nonempty, Nat.zero_le _⟩
        · simp only [Option.map_some, Option.getD_some, ← written, separator]
        · simp only [Option.map_some, Option.getD_some, Grouping.spacing, if_true, thousands]
      · obtain ⟨few, rfl⟩ := Digits.map_stated_eq_ok_iff.mp ok
        have positive : 0 < Digits.value (Digits.decimal s.spacing.size) := by
          rw [value]
          exact s.spacing.size_pos
        refine ⟨fun g' same => ?_, ?_, ?_⟩
        · cases same
          exact ⟨fun _ => positive, Digits.length_decimal_le Digits.limit_pos few⟩
        · simp only [Option.map_some, Option.getD_some, ← written, separator]
        · refine Spacing.eq_of_size ?_
          simp only [Option.map_some, Option.getD_some]
          exact (Grouping.spacing_size (Digits.ofNat_ne_nil _ _) positive).trans value

/-- The canonical pattern of a style is well-formed, has no overlong number and says what the style
says. -/
theorem pattern_sound {s : Style} {p : Pattern} (ok : s.pattern = .ok p) :
    p.WellFormed ∧ p.Legible Digits.limit ∧ p.style = s := by
  unfold pattern at ok
  simp only [Except.bind_eq_ok] at ok
  obtain ⟨⟨flags, zero⟩, flagsOk, width, widthOk, precision, precisionOk, grouping, groupingOk,
    made⟩ := ok
  split at made
  · next point =>
    cases made
    obtain ⟨fill, zeros, margin⟩ := Margin.flags_sound flagsOk
    obtain ⟨present, leading, widthEq⟩ := widthGroup_sound widthOk
    obtain ⟨nonempty, precisionEq⟩ := precisionGroup_sound precisionOk
    obtain ⟨spacing, separatorEq, spacingEq⟩ := separatorGroup_sound groupingOk
    refine ⟨⟨fill, fun flagged => ?_, fun run written => (leading run written).1,
      fun run written => (nonempty run written).1, fun g written => (spacing g written).1⟩,
      ⟨fun run written => (leading run written).2, fun run written => (nonempty run written).2,
        fun g written => (spacing g written).2⟩, ?_⟩
    · obtain ⟨mode, unpaired⟩ := zeros flagged
      exact ⟨present mode, unpaired⟩
    · have sign : (if s.sign = .always then some SignRule.always else none).getD .negativeOnly =
          s.sign := by
        cases s.sign <;> rfl
      have radix : (if s.radix = .decimal then none else some s.radix).getD .decimal = s.radix := by
        cases s.radix <;> rfl
      simp only [Pattern.style, margin, sign, radix, widthEq, precisionEq, separatorEq, spacingEq,
        ← point]
  · cases made

theorem Expressible.widthGroup_total {s : Style} (holds : s.Expressible) :
    ∃ n, s.widthGroup = .ok n := by
  unfold widthGroup
  split
  · next unset =>
    split
    · next filled => exact absurd unset (holds.zeros (zeroFilled_iff.mp filled))
    · exact ⟨none, rfl⟩
  · exact ⟨_, rfl⟩
  · next zero => exact absurd zero holds.width
  · next n _ fixed => exact ⟨_, Digits.map_stated_eq_ok_iff.mpr ⟨holds.fewWidth n fixed, rfl⟩⟩

theorem Expressible.precisionGroup_total {s : Style} (holds : s.Expressible) :
    ∃ n, s.precisionGroup = .ok n := by
  unfold precisionGroup
  split
  · exact ⟨_, rfl⟩
  · exact ⟨_, rfl⟩
  · next n fixed => exact ⟨_, Digits.map_stated_eq_ok_iff.mpr ⟨holds.fewPrecision n fixed, rfl⟩⟩

theorem Expressible.separatorGroup_total {s : Style} (holds : s.Expressible) :
    ∃ g, s.separatorGroup = .ok g := by
  unfold separatorGroup
  split
  · next unset => exact ⟨none, if_pos (holds.spacing unset)⟩
  · next off => exact absurd off holds.off
  · next c separator =>
    obtain ⟨m, written⟩ := holds.separator c separator
    rw [← written, GroupMark.ofChar?_char]
    by_cases thousands : s.spacing = .thousands
    · exact ⟨_, if_pos thousands⟩
    · simp only [if_neg thousands]
      exact ⟨_, Digits.map_stated_eq_ok_iff.mpr ⟨holds.fewSpacing, rfl⟩⟩

theorem Expressible.pattern_total {s : Style} (holds : s.Expressible) :
    ∃ p, s.pattern = .ok p := by
  obtain ⟨⟨flags, zero⟩, flagsOk⟩ := Margin.flags_total holds.fill
  obtain ⟨width, widthOk⟩ := holds.widthGroup_total
  obtain ⟨precision, precisionOk⟩ := holds.precisionGroup_total
  obtain ⟨grouping, groupingOk⟩ := holds.separatorGroup_total
  simp only [pattern, flagsOk, widthOk, precisionOk, groupingOk, holds.point, if_true, bind, Except.bind]
  exact ⟨_, rfl⟩

/-- The canonical text of a style is that of its canonical pattern. -/
theorem canonical_eq_ok_iff {s : Style} {text : String} :
    s.canonical = .ok text ↔ ∃ p, s.pattern = .ok p ∧ String.ofList p.text = text := by
  unfold canonical
  cases s.pattern with
  | error e => simp only [Except.map, reduceCtorEq, false_and, exists_false]
  | ok p => simp only [Except.map, Except.ok.injEq, exists_eq_left']

theorem parse_canonical {s : Style} {text : String} (ok : s.canonical = .ok text) :
    Style.parse text = .ok s := by
  obtain ⟨p, found, rfl⟩ := canonical_eq_ok_iff.mp ok
  obtain ⟨wf, legible, meaning⟩ := pattern_sound found
  rw [Style.parse_text wf legible, meaning]

/-- A style that is read from some text has a canonical text. -/
theorem canonical_of_parse {s : Style} {text : String} (read : Style.parse text = .ok s) :
    ∃ canonical, s.canonical = .ok canonical := by
  obtain ⟨p, wf, legible, _, rfl⟩ := parse_eq_ok_iff.mp read
  obtain ⟨q, found⟩ := (wf.expressible legible).pattern_total
  exact ⟨_, canonical_eq_ok_iff.mpr ⟨q, found, rfl⟩⟩

/-- The canonical text of a style is read back as the same style in all its fields, and a style has
no canonical text only if no text at all is read as that style. -/
theorem canonical_round_trip (s : Style) :
    (∀ text, s.canonical = .ok text → Style.parse text = .ok s) ∧
      ((∃ e, s.canonical = .error e) ↔ ∀ text, Style.parse text ≠ .ok s) := by
  refine ⟨fun text ok => parse_canonical ok, ?_, fun unread => ?_⟩
  · rintro ⟨e, refused⟩ text read
    obtain ⟨canonical, ok⟩ := canonical_of_parse read
    rw [refused] at ok
    cases ok
  · cases outcome : s.canonical with
    | error e => exact ⟨e, rfl⟩
    | ok text => exact absurd (parse_canonical outcome) (unread text)

end Style

end Numeral
