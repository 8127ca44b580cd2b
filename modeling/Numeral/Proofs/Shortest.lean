import Numeral.Proofs.Canonical

namespace Numeral

/-- A text is another one or has fewer characters. -/
def Reduces (short long : List Char) : Prop :=
  short = long ∨ short.length < long.length

namespace Reduces

variable {short long after behind : List Char}

theorem refl (cs : List Char) : Reduces cs cs :=
  Or.inl rfl

theorem length_le (reduces : Reduces short long) : short.length ≤ long.length := by
  rcases reduces with rfl | fewer
  · exact Nat.le_refl _
  · exact Nat.le_of_lt fewer

/-- A text is reduced piece by piece. -/
theorem append (first : Reduces short long) (second : Reduces after behind) :
    Reduces (short ++ after) (long ++ behind) := by
  have firstLe := first.length_le
  have secondLe := second.length_le
  rcases first with rfl | fewer
  · rcases second with rfl | fewer
    · exact refl _
    · right
      rw [List.length_append, List.length_append]
      omega
  · right
    rw [List.length_append, List.length_append]
    omega

theorem cons (c : Char) (reduces : Reduces short long) : Reduces (c :: short) (c :: long) :=
  (refl [c]).append reduces

end Reduces

namespace Digits

/-- A run without a leading zero is the decimal of its value. -/
theorem decimal_value_of_leading {d : Digit} {ds : Digits 10} (leading : d ≠ 0) :
    decimal (value (d :: ds)) = d :: ds :=
  ofNat_value (by decide) (Nat.pos_of_ne_zero fun zero => leading (Fin.ext zero))

/-- Leading zeros make a run of digits longer. -/
theorem decimal_value {ds : Digits 10} (nonempty : ds ≠ []) :
    decimal (value ds) = ds ∨ (decimal (value ds)).length < ds.length := by
  induction ds with
  | nil => exact absurd rfl nonempty
  | cons d rest ih =>
    by_cases leading : d = 0
    · cases rest with
      | nil =>
        left
        rw [value_singleton, decimal, ofNat_of_lt (by decide) d.isLt]
      | cons e es =>
        have same : value (d :: e :: es) = value (e :: es) := by
          rw [value_cons, leading]
          simp
        right
        rw [same]
        rcases ih (List.cons_ne_nil e es) with equal | fewer
        · rw [equal]
          exact Nat.lt_succ_self _
        · exact Nat.lt_succ_of_lt fewer
    · exact Or.inl (decimal_value_of_leading leading)

theorem reduces_decimal {ds : Digits 10} (nonempty : ds ≠ []) :
    Reduces (decimal (value ds)).chars ds.chars := by
  rcases decimal_value nonempty with same | fewer
  · exact Or.inl (by rw [same])
  · right
    simpa only [chars, List.length_map] using fewer

/-- Only zero itself starts with a zero. -/
theorem decimal_head {n : Nat} {d : Digit} {ds : Digits 10} (written : decimal n = d :: ds)
    (more : ds ≠ []) : d ≠ 0 := by
  rintro rfl
  by_cases zero : n = 0
  · rw [zero, decimal, ofNat_of_lt (by decide) (by decide)] at written
    exact more (List.cons.inj written).2.symm
  · obtain ⟨e, es, same, leading⟩ := decimal_leading (Nat.pos_of_ne_zero zero)
    rw [written] at same
    exact leading (List.cons.inj same).1.symm

end Digits

/-- Nothing in a pattern can be left out: no alignment on the right, which is the default, none in front
of a zero flag that discards it, no minus, no code of the decimal base, no leading zero, and no size of
three digits in a group. -/
structure Pattern.Concise (p : Pattern) : Prop where
  right : p.flags ≠ .align .right
  zero : p.zero = true → ∀ a, p.flags = .align a → a = .decimal
  sign : p.sign ≠ some .negativeOnly
  radix : p.radix ≠ some .decimal
  precision : ∀ d ds, p.precision = some (.digits (d :: ds)) → ds ≠ [] → d ≠ 0
  spacing : ∀ g d ds, p.grouping = some g → g.run = d :: ds → d ≠ 0
  thousands : ∀ g, p.grouping = some g → g.run ≠ [] → g.run.value ≠ 3

theorem Margin.flags_concise {m : Margin} {f : Flags} {zero : Bool} (ok : m.flags = .ok (f, zero)) :
    f ≠ .align .right ∧ (zero = true → ∀ a, f = .align a → a = .decimal) := by
  cases m with
  | plain a => cases a <;> cases ok <;> simp
  | filled c a =>
    rw [flags] at ok
    split at ok
    · cases ok
    · cases ok
      simp
  | zeros atPoint => cases atPoint <;> cases ok <;> simp

theorem Pattern.flags_reduce {p : Pattern} (wf : p.WellFormed) {f : Flags} {zero : Bool}
    (ok : p.margin.flags = .ok (f, zero)) : zero = p.zero ∧ Reduces f.text p.flags.text := by
  unfold margin at ok
  cases flags : p.flags with
  | none =>
    cases flagged : p.zero <;> rw [flags, flagged] at ok <;> cases ok <;> exact ⟨rfl, .refl _⟩
  | pair c a =>
    rw [flags] at ok
    cases flagged : p.zero with
    | true => exact absurd flags ((wf.zero flagged).2 c a)
    | false =>
      rw [flagged, Margin.flags] at ok
      split at ok
      · cases ok
      · cases ok
        exact ⟨rfl, .refl _⟩
  | align a =>
    have shorter : Reduces Flags.none.text (Flags.align a).text := Or.inr (Nat.zero_lt_one)
    cases flagged : p.zero with
    | false =>
      rw [flags, flagged] at ok
      cases a with
      | right => cases ok; exact ⟨rfl, shorter⟩
      | left | center | decimal => cases ok; exact ⟨rfl, .refl _⟩
    | true =>
      rw [flags, flagged] at ok
      cases a with
      | decimal => cases ok; exact ⟨rfl, .refl _⟩
      | left | center | right => cases ok; exact ⟨rfl, shorter⟩

namespace Style

variable {s : Style}

theorem precisionGroup_concise {d : Digit} {ds : Digits 10}
    (ok : s.precisionGroup = .ok (some (.digits (d :: ds)))) (more : ds ≠ []) : d ≠ 0 := by
  unfold precisionGroup at ok
  split at ok
  · cases ok
  · cases ok
  · obtain ⟨_, written⟩ := Digits.map_stated_eq_ok_iff.mp ok
    exact Digits.decimal_head (Count.digits.inj (Option.some.inj written)) more

theorem separatorGroup_concise {g : Grouping} (ok : s.separatorGroup = .ok (some g)) :
    (∀ d ds, g.run = d :: ds → d ≠ 0) ∧ (g.run ≠ [] → g.run.value ≠ 3) := by
  unfold separatorGroup at ok
  split at ok
  · split at ok
    · cases ok
    · cases stated : Digits.stated s.spacing.size <;> rw [stated] at ok <;> cases ok
  · cases ok
  · split at ok
    · cases ok
    · split at ok
      · cases ok
        exact ⟨nofun, fun nonempty => absurd rfl nonempty⟩
      · next other =>
        obtain ⟨_, same⟩ := Digits.map_stated_eq_ok_iff.mp ok
        cases same
        refine ⟨fun d ds written => ?_, fun _ three => other (Spacing.eq_of_size ?_)⟩
        · obtain ⟨e, es, same, leading⟩ := Digits.decimal_leading s.spacing.size_pos
          rw [(List.cons.inj (written.symm.trans same)).1]
          exact leading
        · rwa [Digits.decimal, Digits.value_ofNat] at three

/-- Nothing can be left out of the canonical pattern. -/
theorem pattern_concise {q : Pattern} (ok : s.pattern = .ok q) : q.Concise := by
  unfold pattern at ok
  simp only [Except.bind_eq_ok] at ok
  obtain ⟨⟨flags, zero⟩, flagsOk, width, widthOk, precision, precisionOk, grouping, groupingOk,
    made⟩ := ok
  split at made
  · cases made
    obtain ⟨right, atPoint⟩ := Margin.flags_concise flagsOk
    refine ⟨right, atPoint, ?_, ?_, ?_, ?_, ?_⟩
    · cases s.sign <;> exact nofun
    · cases s.radix <;> exact nofun
    · rintro d ds rfl
      exact precisionGroup_concise precisionOk
    · rintro g d ds rfl written
      exact (separatorGroup_concise groupingOk).1 d ds written
    · rintro g rfl
      exact (separatorGroup_concise groupingOk).2
  · cases made

end Style

namespace Pattern

variable {p q : Pattern}

theorem sign_reduces (r : Option SignRule) :
    Reduces (((if r.getD .negativeOnly = .always then some SignRule.always else none).map
      SignRule.char).toList) ((r.map SignRule.char).toList) := by
  cases r with
  | none => exact .refl _
  | some r =>
    cases r with
    | negativeOnly => exact Or.inr Nat.zero_lt_one
    | always => exact .refl _

theorem radix_reduces (r : Option Radix) :
    Reduces (((if r.getD .decimal = .decimal then none else some (r.getD .decimal)).map
      Radix.code).toList) ((r.map Radix.code).toList) := by
  cases r with
  | none => exact .refl _
  | some r =>
    cases r with
    | decimal => exact Or.inr Nat.zero_lt_one
    | binary | octal | hexLower | hexUpper => exact .refl _

/-- A width has no leading zero that could be left out. -/
theorem width_eq (wf : p.WellFormed) {n : Option Count} (ok : p.style.widthGroup = .ok n) :
    n = p.width := by
  have width : p.style.width = (p.width.map Count.setting).getD .unset := rfl
  unfold Style.widthGroup at ok
  rw [width] at ok
  cases stated : p.width with
  | none =>
    simp only [stated, Option.map_none, Option.getD_none] at ok
    split at ok
    · cases ok
    · cases ok
      rfl
  | some count =>
    cases count with
    | deferred => rw [stated] at ok; cases ok; rfl
    | digits run =>
      obtain ⟨d, ds, rfl, leading⟩ := wf.width run stated
      have above : 0 < Digits.value (d :: ds) := Digits.value_pos leading
      obtain ⟨k, positive⟩ := Nat.exists_eq_succ_of_ne_zero (Nat.ne_of_gt above)
      have written : Digits.decimal (Digits.value (d :: ds)) = d :: ds :=
        Digits.decimal_value_of_leading leading
      rw [stated] at ok
      simp only [Option.map_some, Option.getD_some, Count.setting, positive] at ok
      rw [positive] at written
      rw [← (Digits.map_stated_eq_ok_iff.mp ok).2, written]

theorem precision_reduces (wf : p.WellFormed) {n : Option Count}
    (ok : p.style.precisionGroup = .ok n) :
    Reduces ((n.map fun n => '.' :: n.text).getD [])
      ((p.precision.map fun n => '.' :: n.text).getD []) := by
  have precision : p.style.precision = (p.precision.map Count.setting).getD .unset := rfl
  unfold Style.precisionGroup at ok
  rw [precision] at ok
  cases stated : p.precision with
  | none => rw [stated] at ok; cases ok; exact .refl _
  | some count =>
    cases count with
    | deferred => rw [stated] at ok; cases ok; exact .refl _
    | digits run =>
      rw [stated] at ok
      rw [← (Digits.map_stated_eq_ok_iff.mp ok).2]
      exact (Digits.reduces_decimal (wf.precision run stated)).cons '.'

theorem grouping_reduces (wf : p.WellFormed) {g : Option Grouping}
    (ok : p.style.separatorGroup = .ok g) :
    Reduces ((g.map Grouping.text).getD []) ((p.grouping.map Grouping.text).getD []) := by
  have separator : p.style.separator =
    (p.grouping.map fun g => Separator.char g.mark.char).getD .unset := rfl
  have spacing : p.style.spacing = (p.grouping.map Grouping.spacing).getD .thousands := rfl
  unfold Style.separatorGroup at ok
  rw [separator, spacing] at ok
  cases stated : p.grouping with
  | none => rw [stated] at ok; cases ok; exact .refl _
  | some given =>
    rw [stated] at ok
    simp only [Option.map_some, Option.getD_some, GroupMark.ofChar?_char] at ok
    by_cases empty : given.run = []
    · rw [Grouping.spacing, if_pos empty, if_pos rfl] at ok
      cases ok
      refine Reduces.cons given.mark.char ?_
      rw [empty]
      exact .refl _
    · have size := Grouping.spacing_size empty (wf.spacing given stated empty)
      split at ok
      · cases ok
        refine Reduces.cons given.mark.char (Or.inr ?_)
        simpa [Digits.chars] using List.length_pos_iff.mpr empty
      · rw [← (Digits.map_stated_eq_ok_iff.mp ok).2, size]
        exact Reduces.cons given.mark.char (Digits.reduces_decimal empty)

/-- The canonical pattern for what a pattern says is the same or has a shorter text. -/
theorem canonical_reduces (wf : p.WellFormed) (ok : p.style.pattern = .ok q) :
    Reduces q.text p.text := by
  unfold Style.pattern at ok
  simp only [Except.bind_eq_ok] at ok
  obtain ⟨⟨flags, zero⟩, flagsOk, width, widthOk, precision, precisionOk, grouping, groupingOk,
    made⟩ := ok
  split at made
  · cases made
    obtain ⟨rfl, flags⟩ := flags_reduce wf flagsOk
    obtain rfl := width_eq wf widthOk
    exact flags.append ((sign_reduces p.sign).append ((Reduces.refl _).append
      ((Reduces.refl _).append ((Reduces.refl _).append ((precision_reduces wf precisionOk).append
        ((radix_reduces p.radix).append (grouping_reduces wf groupingOk)))))))
  · cases made

end Pattern

namespace Style

/-- The canonical text of a style that is read from a text is no longer than that text, and has as many
characters only if it is the same. It is the text of groups of which nothing can be left out, and it
is its own canonical text. -/
theorem canonical_shortest {text : String} {s : Style} (read : Style.parse text = .ok s) :
    ∃ canonical, s.canonical = .ok canonical ∧
      canonical.length ≤ text.length ∧ (canonical.length = text.length → canonical = text) ∧
      (∃ p : Pattern, p.WellFormed ∧ p.Concise ∧ p.text = canonical.toList) ∧
      ∃ again, Style.parse canonical = .ok again ∧ again.canonical = .ok canonical := by
  obtain ⟨p, wf, legible, written, rfl⟩ := parse_eq_ok_iff.mp read
  obtain ⟨q, found⟩ := (wf.expressible legible).pattern_total
  have ok : p.style.canonical = .ok (String.ofList q.text) :=
    canonical_eq_ok_iff.mpr ⟨q, found, rfl⟩
  have reduces := Pattern.canonical_reduces wf found
  have length : (String.ofList q.text).length = q.text.length := String.length_ofList
  have given : text.length = p.text.length := by rw [written, String.length_toList]
  refine ⟨_, ok, ?_, ?_, ?_, p.style, parse_canonical ok, ok⟩
  · rw [length, given]
    exact reduces.length_le
  · intro equal
    rw [length, given] at equal
    rcases reduces with same | fewer
    · rw [same, written, String.ofList_toList]
    · exact absurd equal (Nat.ne_of_lt fewer)
  · exact ⟨q, (pattern_sound found).1, pattern_concise found, String.toList_ofList.symm⟩

/-- The alignment, the minus, the base, both leading zeros and the size of a group can go. -/
theorem canonical_shortest_of_wordy :
    let text := String.ofList
      ['<', '-', '#', '0', '1', '2', '.', '0', '1', '0', 'd', ',', '0', '0', '3']
    let s : Style := { margin := .zeros false, alternate := true, width := .fixed 12,
                       precision := .fixed 10, separator := .char ',' }
    Style.parse text = .ok s ∧ ∃ canonical, s.canonical = .ok canonical ∧
      canonical = String.ofList ['#', '0', '1', '2', '.', '1', '0', ','] ∧
      canonical.length ≤ text.length := by
  intro text s
  have read : Style.parse text = .ok s := by
    rw [Style.parse, String.toList_ofList]
    rfl
  obtain ⟨canonical, ok, shorter, _, _, _⟩ := canonical_shortest read
  refine ⟨read, canonical, ok, ?_, shorter⟩
  have made : s.canonical.toOption =
      some (String.ofList ['#', '0', '1', '2', '.', '1', '0', ',']) := by
    decide +kernel
  rw [ok] at made
  exact Option.some.inj made

end Style

end Numeral
