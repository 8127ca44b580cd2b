import Numeral.Draft.Basic
import Numeral.Outcome

namespace Numeral

theorem Datum.char_inj {c d : Char} : Datum.char c = Datum.char d ↔ c = d := by
  rw [Datum.char, Datum.char, Datum.str.injEq, String.singleton_inj]

/-- A datum says what a width or precision is. -/
def Datum.Counts (d : Datum) : Setting Nat → Prop
  | .unset => d = .unset
  | .deferred => d = .deferred
  | .fixed n => d.int? = some (n : Int)

theorem Datum.counts_toDatum (n : Setting Nat) : n.toDatum.Counts n := by
  cases n <;> rfl

/-- The fields of a draft state a style. A number may be of a derived kind. -/
structure Draft.States (d : Draft) (s : Style) : Prop where
  fill : d .fill = .char s.margin.fill
  align : d .align = .char s.margin.align.char
  sign : d .sign = .char s.sign.char
  alternate : d .alternate = .bool s.alternate
  mode : d .mode = .str s.margin.mode.text
  width : (d .width).Counts s.width
  precision : (d .precision).Counts s.precision
  radix : d .radix = .char s.radix.code
  separator : d .separator = s.separator.toDatum
  spacing : (d .spacing).int? = some (s.spacing.size : Int)
  point : d .point = .char s.point

theorem Margin.ofParts_eq (m : Margin) : ofParts m.mode m.fill m.align = .ok m := by
  cases m with
  | plain a => rfl
  | filled c a => rfl
  | zeros atPoint => cases atPoint <;> rfl

/-- A margin is made of its own parts and of no others. -/
theorem Margin.ofParts_eq_ok_iff {mode : PadMode} {fill : Char} {align : Align} {m : Margin} :
    ofParts mode fill align = .ok m ↔ mode = m.mode ∧ fill = m.fill ∧ align = m.align := by
  constructor
  · intro made
    cases mode with
    | plain =>
      simp only [ofParts] at made
      split at made
      · next blank => cases made; exact ⟨rfl, blank, rfl⟩
      · cases made
    | filled => cases made; exact ⟨rfl, rfl, rfl⟩
    | zeros =>
      simp only [ofParts] at made
      split at made
      · cases made
      · next zero =>
        cases align <;> cases made <;> exact ⟨rfl, Decidable.not_not.mp zero, rfl⟩
  · rintro ⟨rfl, rfl, rfl⟩
    exact m.ofParts_eq

namespace Draft

variable {d : Draft} {field : Field}

/-- A field with one of several texts is read as the choice whose text it is. -/
theorem choice_eq_ok_iff {α : Type} {all : List α} {text : α → String} {a : α}
    (own : ∀ b, all.find? (text · = text b) = some b) :
    d.choice field all text = .ok a ↔ d field = .str (text a) := by
  unfold choice
  constructor
  · intro ok
    split at ok
    · next s stated =>
      split at ok
      · next found =>
        cases ok
        have here := List.find?_some found
        rw [stated, of_decide_eq_true here]
      · cases ok
    · cases ok
  · intro stated
    simp only [stated, own a]

theorem char_eq_ok_iff {c : Char} : d.char field = .ok c ↔ d field = .char c := by
  unfold char
  constructor
  · intro ok
    split at ok
    · next s stated =>
      split at ok
      · next single =>
        cases ok
        rw [stated, Datum.char, String.toList_inj.mp (single.trans (String.toList_singleton c).symm)]
      · cases ok
    · cases ok
  · intro stated
    simp only [stated, Datum.char, String.toList_singleton]

theorem flag_eq_ok_iff {b : Bool} : d.flag field = .ok b ↔ d field = .bool b := by
  unfold flag
  constructor
  · intro ok
    split at ok
    · next stated => cases ok; exact stated
    · cases ok
  · intro stated
    simp only [stated]

theorem separator_eq_ok_iff {s : Separator} :
    d.separator = .ok s ↔ d .separator = s.toDatum := by
  unfold separator
  constructor
  · intro ok
    split at ok
    · next stated => cases ok; exact stated
    · next stated => cases ok; exact stated
    · cases read : d.char .separator with
      | error e => rw [read] at ok; cases ok
      | ok c =>
        rw [read] at ok
        cases ok
        exact char_eq_ok_iff.mp read
  · intro stated
    cases s with
    | unset => simp only [stated, Separator.toDatum]
    | off => simp only [stated, Separator.toDatum]
    | char c =>
      rw [Separator.toDatum] at stated
      rw [char_eq_ok_iff.mpr stated, stated]
      rfl

theorem count_eq_ok_iff {n : Setting Nat} : d.count field = .ok n ↔ (d field).Counts n := by
  unfold count
  constructor
  · intro ok
    split at ok
    · next stated => cases ok; exact stated
    · next stated => cases ok; exact stated
    · split at ok
      · cases ok
      · next k number =>
        split at ok
        · next enough =>
          cases ok
          rw [Datum.Counts, number, Int.toNat_of_nonneg enough]
        · cases ok
  · intro counts
    cases n with
    | unset => rw [show d field = .unset from counts]
    | deferred => rw [show d field = .deferred from counts]
    | fixed k =>
      have number : (d field).int? = some (k : Int) := counts
      split
      · next stated => rw [stated] at number; cases number
      · next stated => rw [stated] at number; cases number
      · simp only [number, if_pos (Int.natCast_nonneg k), Int.toNat_natCast]

theorem spacing_eq_ok_iff {s : Spacing} :
    d.spacing = .ok s ↔ (d .spacing).int? = some (s.size : Int) := by
  unfold spacing
  constructor
  · intro ok
    split at ok
    · cases ok
    · next n number =>
      split at ok
      · next least =>
        cases ok
        rw [number, Int.toNat_of_nonneg (by omega)]
      · cases ok
  · intro number
    have least : (1 : Int) ≤ s.size := by
      have positive := s.size_pos
      omega
    simp only [number, dif_pos least, Int.toNat_natCast]

theorem align_eq_ok_iff {a : Align} :
    d.choice .align Align.all (fun a => String.singleton a.char) = .ok a ↔
      d .align = .char a.char :=
  choice_eq_ok_iff fun b => by cases b <;> decide

theorem sign_eq_ok_iff {r : SignRule} :
    d.choice .sign SignRule.all (fun r => String.singleton r.char) = .ok r ↔
      d .sign = .char r.char :=
  choice_eq_ok_iff fun b => by cases b <;> decide

theorem mode_eq_ok_iff {m : PadMode} :
    d.choice .mode PadMode.all PadMode.text = .ok m ↔ d .mode = .str m.text :=
  choice_eq_ok_iff fun b => by cases b <;> decide

theorem radix_eq_ok_iff {r : Radix} :
    d.choice .radix Radix.all (fun r => String.singleton r.code) = .ok r ↔
      d .radix = .char r.code :=
  choice_eq_ok_iff fun b => by cases b <;> decide

/-- A draft is made a style exactly if its fields state that style. -/
theorem toStyle_eq_ok_iff {s : Style} : d.toStyle = .ok s ↔ d.States s := by
  unfold toStyle
  simp only [Except.bind_eq_ok, align_eq_ok_iff, sign_eq_ok_iff, mode_eq_ok_iff, radix_eq_ok_iff,
    flag_eq_ok_iff, char_eq_ok_iff, separator_eq_ok_iff, count_eq_ok_iff, spacing_eq_ok_iff,
    Margin.ofParts_eq_ok_iff]
  constructor
  · rintro ⟨_, align, _, sign, _, mode, _, radix, _, alternate, _, fill, _, point, _, separator, _,
      width, _, precision, _, spacing, _, ⟨rfl, rfl, rfl⟩, made⟩
    cases made
    exact ⟨fill, align, sign, alternate, mode, width, precision, radix, separator, spacing, point⟩
  · rintro ⟨fill, align, sign, alternate, mode, width, precision, radix, separator, spacing, point⟩
    exact ⟨_, align, _, sign, _, mode, _, radix, _, alternate, _, fill, _, point, _, separator, _,
      width, _, precision, _, spacing, _, ⟨rfl, rfl, rfl⟩, rfl⟩

end Draft

theorem Style.states_toDraft (s : Style) : s.toDraft.States s where
  fill := rfl
  align := rfl
  sign := rfl
  alternate := rfl
  mode := rfl
  width := Datum.counts_toDatum s.width
  precision := Datum.counts_toDatum s.precision
  radix := rfl
  separator := rfl
  spacing := rfl
  point := rfl

/-- The fields of a style make up that style. -/
theorem Style.toStyle_toDraft (s : Style) : s.toDraft.toStyle = .ok s :=
  Draft.toStyle_eq_ok_iff.mpr s.states_toDraft

end Numeral
