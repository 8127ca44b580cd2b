import Numeral.Draft.Lemmas
import Numeral.Proofs.DigitLimit

namespace Numeral

/-- What the flags of a pattern and its zero flag say about mode, fill and alignment. The zero flag
brings its own fill and discards every alignment except the one at the point. -/
inductive Flags.Mean : Flags → Bool → PadMode → Char → Align → Prop
  | absent : Mean .none false .plain ' ' .right
  | align (a : Align) : Mean (.align a) false .plain ' ' a
  | pair (c : Char) (a : Align) : Mean (.pair c a) false .filled c a
  | zeros : Mean .none true .zeros '0' .right
  | zerosAtPoint : Mean (.align .decimal) true .zeros '0' .decimal
  | zerosElsewhere (a : Align) : a ≠ .decimal → Mean (.align a) true .zeros '0' .right

/-- What a count says about a width or precision. -/
inductive Count.Mean : Option Count → Setting Nat → Prop
  | absent : Mean none .unset
  | deferred : Mean (some .deferred) .deferred
  | digits (run : Digits 10) : Mean (some (.digits run)) (.fixed run.value)

/-- What a separator and the digits behind it say about grouping. -/
inductive Grouping.Mean : Option Grouping → Separator → Spacing → Prop
  | absent : Mean none .unset .thousands
  | mark (m : GroupMark) : Mean (some ⟨m, []⟩) (.char m.char) .thousands
  | sized (m : GroupMark) (run : Digits 10) (spacing : Spacing) :
      run ≠ [] → spacing.size = run.value → Mean (some ⟨m, run⟩) (.char m.char) spacing

/-- A style holds the meaning of the groups of a pattern and the default for every absent one. No
group speaks about the point. -/
structure Pattern.Means (p : Pattern) (s : Style) : Prop where
  flags : p.flags.Mean p.zero s.margin.mode s.margin.fill s.margin.align
  sign : s.sign = p.sign.getD .negativeOnly
  alternate : s.alternate = p.alternate
  width : Count.Mean p.width s.width
  precision : Count.Mean p.precision s.precision
  radix : s.radix = p.radix.getD .decimal
  grouping : Grouping.Mean p.grouping s.separator s.spacing
  point : s.point = '.'

/-- Mode, fill and alignment make up a margin. -/
theorem Margin.eq_of_parts {m n : Margin} (mode : m.mode = n.mode) (fill : m.fill = n.fill)
    (align : m.align = n.align) : m = n := by
  have whole := Margin.ofParts_eq m
  rw [mode, fill, align, Margin.ofParts_eq n] at whole
  exact (Except.ok.inj whole).symm

theorem Spacing.eq_of_size {a b : Spacing} (size : a.size = b.size) : a = b := by
  cases a
  cases b
  cases size
  rfl

theorem Flags.Mean.unique {f : Flags} {zero : Bool} {mode mode' : PadMode} {fill fill' : Char}
    {align align' : Align} (first : f.Mean zero mode fill align)
    (second : f.Mean zero mode' fill' align') : mode = mode' ∧ fill = fill' ∧ align = align' := by
  cases first with
  | zerosElsewhere _ other =>
    cases second with
    | zerosAtPoint => exact absurd rfl other
    | zerosElsewhere => exact ⟨rfl, rfl, rfl⟩
  | zerosAtPoint =>
    cases second with
    | zerosAtPoint => exact ⟨rfl, rfl, rfl⟩
    | zerosElsewhere _ other => exact absurd rfl other
  | absent | align | pair | zeros => cases second; exact ⟨rfl, rfl, rfl⟩

theorem Pattern.margin_mean {p : Pattern} (wf : p.WellFormed) :
    p.flags.Mean p.zero p.margin.mode p.margin.fill p.margin.align := by
  unfold margin
  cases flags : p.flags with
  | pair c a =>
    cases zero : p.zero with
    | true => exact absurd flags ((wf.zero zero).2 c a)
    | false => exact .pair c a
  | align a =>
    cases p.zero with
    | false => exact .align a
    | true =>
      by_cases point : a = .decimal
      · subst a
        exact .zerosAtPoint
      · simp only [point, decide_false]
        exact .zerosElsewhere a point
  | none =>
    cases p.zero with
    | false => exact .absent
    | true => exact .zeros

theorem Pattern.flags_mean_iff {p : Pattern} (wf : p.WellFormed) {m : Margin} :
    p.flags.Mean p.zero m.mode m.fill m.align ↔ p.margin = m := by
  constructor
  · intro mean
    obtain ⟨mode, fill, align⟩ := (margin_mean wf).unique mean
    exact Margin.eq_of_parts mode fill align
  · rintro rfl
    exact margin_mean wf

theorem Count.mean_iff {n : Option Count} {w : Setting Nat} :
    Count.Mean n w ↔ (n.map Count.setting).getD .unset = w := by
  constructor
  · intro mean
    cases mean <;> rfl
  · rintro rfl
    cases n with
    | none => exact .absent
    | some n =>
      cases n with
      | deferred => exact .deferred
      | digits run => exact .digits run

theorem Grouping.mean_iff {g : Option Grouping} {separator : Separator} {spacing : Spacing}
    (positive : ∀ g', g = some g' → g'.run ≠ [] → 0 < g'.run.value) :
    Grouping.Mean g separator spacing ↔
      (g.map fun g => Separator.char g.mark.char).getD .unset = separator ∧
        (g.map Grouping.spacing).getD .thousands = spacing := by
  constructor
  · intro mean
    cases mean with
    | absent => exact ⟨rfl, rfl⟩
    | mark m => exact ⟨rfl, rfl⟩
    | sized m run spacing nonempty size =>
      refine ⟨rfl, Spacing.eq_of_size ?_⟩
      rw [size]
      exact spacing_size nonempty (positive _ rfl nonempty)
  · rintro ⟨rfl, rfl⟩
    cases g with
    | none => exact .absent
    | some g =>
      by_cases empty : g.run = []
      · obtain ⟨m, run⟩ := g
        cases empty
        exact .mark m
      · exact .sized g.mark g.run _ empty (spacing_size empty (positive g rfl empty))

/-- No separator of a pattern is a letter. -/
theorem Unicode.letter_mark (m : GroupMark) : Unicode.classes.letter m.char = false := by
  cases m <;> decide +kernel

namespace Pattern

/-- The meaning of a well-formed pattern is one style. -/
theorem means_iff {p : Pattern} (wf : p.WellFormed) {s : Style} : p.Means s ↔ p.style = s := by
  constructor
  · intro means
    have margin := (flags_mean_iff wf).mp means.flags
    have width := Count.mean_iff.mp means.width
    have precision := Count.mean_iff.mp means.precision
    obtain ⟨separator, spacing⟩ := (Grouping.mean_iff wf.spacing).mp means.grouping
    obtain ⟨_, sign, alternate, _, _, radix, _, point⟩ := means
    simp only [style, margin, ← sign, ← alternate, width, precision, ← radix, separator, spacing,
      ← point]
  · rintro rfl
    exact {
      flags := margin_mean wf
      sign := rfl
      alternate := rfl
      width := Count.mean_iff.mpr rfl
      precision := Count.mean_iff.mpr rfl
      radix := rfl
      grouping := (Grouping.mean_iff wf.spacing).mpr ⟨rfl, rfl⟩
      point := rfl }

/-- Two well-formed patterns with the same text have the same groups. -/
theorem eq_of_text_eq {p q : Pattern} (left : p.WellFormed) (right : q.WellFormed)
    (same : p.text = q.text) : p = q := by
  have readLeft := scan_text Unicode.letter_mark left p.legible_length
  rw [same, scan_text Unicode.letter_mark right q.legible_length] at readLeft
  exact (Except.ok.inj readLeft).symm

theorem text_width (run : Digits 10) :
    ({ width := some (.digits run) } : Pattern).text = run.chars := by
  simp [text, Flags.text, Count.text]

end Pattern

namespace Style

/-- A text is read as a style exactly if it is the text of a well-formed pattern for it whose
numbers have few enough digits. -/
theorem parse_eq_ok_iff {text : String} {s : Style} :
    Style.parse text = .ok s ↔ ∃ p : Pattern, p.WellFormed ∧ p.Legible Digits.limit ∧
      p.text = text.toList ∧ p.style = s := by
  constructor
  · intro ok
    unfold Style.parse at ok
    cases read : Pattern.read Unicode.classes Digits.limit text.toList with
    | error e => rw [read] at ok; cases ok
    | ok p =>
      rw [read] at ok
      obtain ⟨wf, legible, written⟩ := Pattern.scan_sound (Pattern.read_eq_ok_iff.mp read)
      exact ⟨p, wf, legible, written, Except.ok.inj ok⟩
  · rintro ⟨p, wf, legible, written, rfl⟩
    unfold Style.parse
    rw [← written, Pattern.read_eq_ok_iff.mpr (Pattern.scan_text Unicode.letter_mark wf legible)]
    rfl

theorem parse_text {p : Pattern} (wf : p.WellFormed) (legible : p.Legible Digits.limit) :
    Style.parse (String.ofList p.text) = .ok p.style :=
  parse_eq_ok_iff.mpr ⟨p, wf, legible, String.toList_ofList.symm, rfl⟩

/-- The numbers of a pattern are the only other thing for which its text is refused. -/
theorem parse_text_of_not_legible {p : Pattern} (wf : p.WellFormed)
    (illegible : ¬ p.Legible Digits.limit) :
    ∃ n, Style.parse (String.ofList p.text) = .error (.digits (.tooLong n)) ∧
      Overlong Digits.limit p.text n := by
  obtain ⟨n, failed, long⟩ := Pattern.scan_text_of_not_legible Unicode.letter_mark wf illegible
  refine ⟨n, ?_, long⟩
  rw [Style.parse, String.toList_ofList, Pattern.read_eq_digits_iff.mpr failed]
  rfl

/-- Reading accepts the texts of well-formed patterns whose numbers have few enough digits, and no
others. A text splits into groups in one way only, whatever its numbers, and the style that is read
holds the meaning of these groups. With too many digits the text is refused for them. -/
theorem parse_accepts_grammar (text : String) :
    ((∃ s, Style.parse text = .ok s) ↔
      ∃ p : Pattern, p.WellFormed ∧ p.Legible Digits.limit ∧ p.text = text.toList) ∧
      (∀ p q : Pattern, p.WellFormed → q.WellFormed → p.text = text.toList →
        q.text = text.toList → p = q) ∧
      (∀ s, Style.parse text = .ok s ↔
        ∃ p : Pattern, p.WellFormed ∧ p.Legible Digits.limit ∧ p.text = text.toList ∧ p.Means s) ∧
      ∀ p : Pattern, p.WellFormed → ¬ p.Legible Digits.limit → p.text = text.toList →
        ∃ n, Style.parse text = .error (.digits (.tooLong n)) ∧
          Overlong Digits.limit text.toList n := by
  refine ⟨⟨?_, ?_⟩, ?_, fun s => ⟨?_, ?_⟩, ?_⟩
  · rintro ⟨s, read⟩
    obtain ⟨p, wf, legible, written, _⟩ := parse_eq_ok_iff.mp read
    exact ⟨p, wf, legible, written⟩
  · rintro ⟨p, wf, legible, written⟩
    exact ⟨p.style, parse_eq_ok_iff.mpr ⟨p, wf, legible, written, rfl⟩⟩
  · intro p q left right atP atQ
    exact Pattern.eq_of_text_eq left right (atP.trans atQ.symm)
  · intro read
    obtain ⟨p, wf, legible, written, same⟩ := parse_eq_ok_iff.mp read
    exact ⟨p, wf, legible, written, (Pattern.means_iff wf).mpr same⟩
  · rintro ⟨p, wf, legible, written, means⟩
    exact parse_eq_ok_iff.mpr ⟨p, wf, legible, written, (Pattern.means_iff wf).mp means⟩
  · intro p wf illegible written
    have refused := parse_text_of_not_legible wf illegible
    rwa [written, String.ofList_toList] at refused

/-- A width of 4301 digits is a group of a well-formed pattern, and yet it is not read. -/
theorem parse_refuses_overlong_width :
    let text := String.ofList (List.replicate 4301 '1')
    (∃ p : Pattern, p.WellFormed ∧ p.text = text.toList) ∧
      Style.parse text = .error (.digits (.tooLong 4301)) := by
  intro text
  let p : Pattern := { width := some (.digits (List.replicate 4301 1)) }
  have wf : p.WellFormed := by
    refine ⟨nofun, nofun, fun run written => ?_, nofun, nofun⟩
    cases written
    exact ⟨1, List.replicate 4300 1, List.replicate_succ, by decide⟩
  have written : p.text = List.replicate 4301 '1' := by
    rw [Pattern.text_width, Digits.chars, List.map_replicate]
    rfl
  have refused := Pattern.scan_replicate_one Unicode.classes [] rfl
  rw [List.append_nil] at refused
  refine ⟨⟨p, wf, by rw [written, String.toList_ofList]⟩, ?_⟩
  rw [Style.parse, String.toList_ofList, Pattern.read_eq_digits_iff.mpr refused]
  rfl

end Style

end Numeral
