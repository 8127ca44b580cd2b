import Numeral.Proofs.Bounds

namespace Numeral

section

variable {policy : Policy} {quantity : Quantity} {supplied : Option Nat} {setting : Setting Nat}

theorem Setting.inForce_of_missing (missing : setting = .deferred ∧ supplied = none) :
    (setting.supply policy supplied).inForce quantity = .error ⟨quantity⟩ := by
  rw [(supply_eq_deferred_iff policy supplied setting).mpr missing, inForce]

theorem Setting.inForce_of_present (present : ¬ (setting = .deferred ∧ supplied = none)) :
    ∃ found, (setting.supply policy supplied).inForce quantity = .ok found := by
  rw [← supply_eq_deferred_iff policy] at present
  cases inForce : setting.supply policy supplied with
  | unset => exact ⟨none, rfl⟩
  | fixed n => exact ⟨some n, rfl⟩
  | deferred => exact absurd inForce present

end

/-- A count in force as a datum. -/
def Datum.ofCount : Option Nat → Datum
  | some n => .int n
  | Option.none => .unset

namespace Overrides

/-- Whether a style defers a quantity for which nothing is supplied. The size of a group is never
deferred. -/
def Lacks (o : Overrides) (s : Style) : Quantity → Prop
  | .width => s.width = .deferred ∧ o.width = none
  | .precision => s.precision = .deferred ∧ o.precision = none
  | .spacing => False

/-- A width is resolved among data as it is among counts. -/
theorem resolve_width (o : Overrides) (s : Style) :
    o.resolve .width s.width.toDatum = (o.widthFor s).map Datum.ofCount := by
  unfold resolve widthFor
  cases s.width <;> cases o.width <;> cases o.policy <;> rfl

theorem resolve_precision (o : Overrides) (s : Style) :
    o.resolve .precision s.precision.toDatum = (o.precisionFor s).map Datum.ofCount := by
  unfold resolve precisionFor
  cases s.precision <;> cases o.precision <;> cases o.policy <;> rfl

theorem resolve_spacing (o : Overrides) (s : Style) :
    o.resolve .spacing (.int s.spacing.size) = .ok (.int (o.spacingFor s).size) := by
  unfold resolve spacingFor
  cases o.spacing <;> cases o.policy <;> rfl

end Overrides

/-- The quantities in force are those to which the data of the style resolve. An unset width is none
at all, a group holds at least one digit, and a copy of the fill takes room. -/
structure Style.Settled (s : Style) (o : Overrides) (m : Measures) : Prop where
  width : (o.resolve .width s.width.toDatum).map (·.orElse (.int 0)) = .ok (.int m.width)
  precision : o.resolve .precision s.precision.toDatum = .ok (.ofCount m.precision)
  spacing : o.resolve .spacing (.int s.spacing.size) = .ok (.int m.spacing.size)
  spacing_pos : 1 ≤ m.spacing.size
  fill : ∀ encodable cost, (Datum.char s.margin.fill).charCost encodable = .ok cost → 1 ≤ cost

namespace Style

variable {s : Style} {o : Overrides} {m : Measures}

theorem settled_of_measures (ok : s.measures o = .ok m) : s.Settled o m := by
  obtain ⟨precision, ⟨w, width, unset⟩, spacing⟩ := measures_eq_ok_iff.mp ok
  refine ⟨?_, ?_, ?_, m.spacing.size_pos, fun encodable cost ok => ?_⟩
  · rw [o.resolve_width, width, unset]
    cases w <;> rfl
  · rw [o.resolve_precision, precision]
    rfl
  · rw [o.resolve_spacing, spacing]
  · simp only [Datum.char, Datum.charCost, String.toList_singleton, Except.mapError_eq_ok,
      charCostChecked] at ok
    split at ok
    · exact Except.ok.inj ok ▸ s.margin.fill.utf8Size_pos
    · cases ok

/-- The width is asked for first. -/
theorem measures_of_lacks_width (lacks : o.Lacks s .width) : s.measures o = .error ⟨.width⟩ := by
  rw [measures, Overrides.widthFor, Setting.inForce_of_missing lacks]
  rfl

theorem measures_of_lacks_precision (width : ¬ o.Lacks s .width) (lacks : o.Lacks s .precision) :
    s.measures o = .error ⟨.precision⟩ := by
  obtain ⟨w, found⟩ := Setting.inForce_of_present width
  rw [measures, Overrides.widthFor, found, Overrides.precisionFor, Setting.inForce_of_missing lacks]
  rfl

theorem measures_of_present (width : ¬ o.Lacks s .width) (precision : ¬ o.Lacks s .precision) :
    ∃ m, s.measures o = .ok m := by
  obtain ⟨w, atWidth⟩ := Setting.inForce_of_present width
  obtain ⟨p, atPrecision⟩ := Setting.inForce_of_present precision
  exact ⟨⟨w.getD 0, p, o.spacingFor s⟩,
    measures_eq_ok_iff.mpr ⟨atPrecision, ⟨w, atWidth, rfl⟩, rfl⟩⟩

end Style

namespace Datum

/-- What is written by operations that can be refused is what is written, unless one of them is. So
all that holds of what is written holds of what comes out. -/
theorem renderChecked_eq_render_or (encodable : Char → Bool) (style value given : Datum) :
    renderChecked encodable style value given = render style value given ∨
      ∃ e, renderChecked encodable style value given = .error (.undefined e) := by
  unfold renderChecked render
  cases style.toStyle with
  | error e => exact Or.inl rfl
  | ok s =>
    cases given.toOverrides with
    | error e => exact Or.inl rfl
    | ok o =>
      cases settled : s.measures o with
      | error e => exact Or.inl (by simp only [settled, Except.mapError_ok, bind, Except.bind]; rfl)
      | ok m =>
        cases read : value.toNumber false with
        | error e => exact Or.inl (by simp only [settled, Except.mapError_ok, bind, Except.bind]; rfl)
        | ok n =>
          simp only [settled, Except.mapError_ok, bind, Except.bind]
          cases written : s.writeChecked encodable m n with
          | error e => exact Or.inr ⟨e, rfl⟩
          | ok out =>
            obtain rfl := Style.writeChecked_sound (places_of_toNumber read) written
            exact Or.inl rfl

/-- A deferred width or precision that was not supplied keeps every datum from being written, and the
width is missed first; a datum that is no number changes nothing about that. With both in force, a
number is written unless it is an integer of too many digits in base ten, or one of the characters
whose cost is asked for has no form in UTF-8. For any datum, what comes out is what is written, unless
one of the operations on the way is refused. -/
theorem render_fails_only_if_missing {s : Style} {given : Datum} {o : Overrides}
    (supplied : given.toOverrides = .ok o) (encodable : Char → Bool) (value : Datum) :
    (o.Lacks s .width →
      renderChecked encodable (.style s) value given = .error (.missing ⟨.width⟩)) ∧
    (¬ o.Lacks s .width → o.Lacks s .precision →
      renderChecked encodable (.style s) value given = .error (.missing ⟨.precision⟩)) ∧
    (value.IsNumber → ¬ o.Lacks s .width → ¬ o.Lacks s .precision →
      ∃ m n, s.Settled o m ∧ value.toNumber false = .ok n ∧
        (s.radix = .decimal ∧ value.Exceeds →
          renderChecked encodable (.style s) value given =
            .error (.undefined (.digits .tooLarge))) ∧
        (¬ (s.radix = .decimal ∧ value.Exceeds) →
          renderChecked encodable (.style s) value given =
            match (s.margin.asked m.width (s.pieces m n)).find? (!encodable ·) with
            | some c => .error (.undefined (.unencodable c))
            | Option.none => .ok (String.ofList (s.write m n)))) ∧
    (renderChecked encodable (.style s) value given = render (.style s) value given ∨
      ∃ e, renderChecked encodable (.style s) value given = .error (.undefined e)) := by
  have opened := renderChecked_style encodable supplied s value
  refine ⟨fun lacks => ?_, fun width lacks => ?_, fun number width precision => ?_,
    renderChecked_eq_render_or encodable _ _ _⟩
  · rw [opened, Style.measures_of_lacks_width lacks]
    rfl
  · rw [opened, Style.measures_of_lacks_precision width lacks]
    rfl
  · obtain ⟨m, settled⟩ := Style.measures_of_present width precision
    obtain ⟨n, read, rounds, overlong⟩ := number.toNumber
    refine ⟨m, n, Style.settled_of_measures settled, read, fun large => ?_, fun small => ?_⟩
    · rw [opened, settled, read]
      simp only [Except.mapError_ok, bind, Except.bind,
        Style.writeChecked_of_overlong rounds ((overlong s m).mpr large)]
      rfl
    · rw [opened, settled, read]
      simp only [Except.mapError_ok, bind, Except.bind,
        Style.writeChecked_eq rounds (mt (overlong s m).mp small)]
      cases (s.margin.asked m.width (s.pieces m n)).find? (!encodable ·) with
      | some c => rfl
      | none => rfl

/-- The width is missed before the precision and before the datum turns out to be a text. With both
supplied, a width of zero included, an integer is written. -/
theorem render_misses_width_first :
    let s : Style := { margin := .filled '🖤' .center, width := .deferred, precision := .deferred,
                       separator := .char '€' }
    let o : Overrides := { width := some 0, precision := some 2, policy := .deferredOnly }
    let any : Char → Bool := fun _ => true
    renderChecked any (.style s) (.str "703710") .none = .error (.missing ⟨.width⟩) ∧
      renderChecked any (.style s) (.str "703710") (.overrides { o with precision := .none }) =
        .error (.missing ⟨.precision⟩) ∧
      renderChecked any (.style s) (.int (-703710)) (.overrides o) = .ok "-703€710" ∧
      ∃ m n, s.Settled o m ∧ (Datum.int (-703710)).toNumber false = .ok n ∧
        String.ofList (s.write m n) = "-703€710" := by
  intro s o any
  have nothing : Datum.none.toOverrides = .ok {} := rfl
  have part : (Datum.overrides { o with precision := .none }).toOverrides =
      .ok { o with precision := .none } := rfl
  have both : (Datum.overrides o).toOverrides = .ok o := rfl
  obtain ⟨width, _, _, _⟩ := render_fails_only_if_missing (s := s) nothing any (.str "703710")
  obtain ⟨_, precision, _, _⟩ := render_fails_only_if_missing (s := s) part any (.str "703710")
  obtain ⟨_, _, written, same⟩ := render_fails_only_if_missing (s := s) both any (.int (-703710))
  obtain ⟨m, n, settled, number, _, made⟩ := written (.int _) nofun nofun
  have small : ¬ (s.radix = .decimal ∧ (Datum.int (-703710)).Exceeds) := by
    rintro ⟨_, i, ⟨⟩, large⟩
    have few : 703710 < 10 ^ Digits.limit :=
      Nat.lt_of_lt_of_le (by decide : 703710 < 10 ^ 6) (Nat.pow_le_pow_right (by decide) (by decide))
    exact Nat.not_le.mpr few large
  have everything : (s.margin.asked m.width (s.pieces m n)).find? (!any ·) = Option.none :=
    List.find?_eq_none.mpr fun c _ => Bool.false_ne_true
  have made : renderChecked any (.style s) (.int (-703710)) (.overrides o) =
      .ok (String.ofList (s.write m n)) := by
    rw [made small, everything]
  have text : Datum.render (.style s) (.int (-703710)) (.overrides o) = .ok "-703€710" :=
    render_eq_ok_iff.mpr ⟨{ precision := some 2 }, .ofInt (-703710), rfl, rfl, by decide +kernel⟩
  rw [made, text] at same
  have found : String.ofList (s.write m n) = "-703€710" := by
    rcases same with same | ⟨e, failed⟩
    · exact Except.ok.inj same
    · cases failed
  exact ⟨width ⟨rfl, rfl⟩, precision nofun ⟨rfl, rfl⟩, by rw [made, found], m, n, settled, number,
    found⟩

/-- Nothing is deferred, and yet an integer of 4301 digits is not written in base ten, nor is a one
filled up with a character that has no form in UTF-8. -/
theorem render_fails_otherwise :
    let s : Style := { margin := .filled '*' .left, width := .fixed 5 }
    ¬ (Overrides.Lacks {} s .width ∨ Overrides.Lacks {} s .precision) ∧
      renderChecked (fun _ => true) (.style s) (.int (10 ^ Digits.limit : Nat)) .none =
        .error (.undefined (.digits .tooLarge)) ∧
      renderChecked (· ≠ '*') (.style s) (.int 1) .none = .error (.undefined (.unencodable '*')) := by
  intro s
  have nothing : Datum.none.toOverrides = .ok {} := rfl
  have settled : s.measures {} = .ok { width := 5 } := rfl
  have refused (i : Int) (large : 10 ^ Digits.limit ≤ i.natAbs) :
      renderChecked (fun _ => true) (.style s) (.int i) .none =
        .error (.undefined (.digits .tooLarge)) := by
    obtain ⟨n, read, rounds, overlong⟩ := IsNumber.toNumber (.int i)
    have exceeds : s.Overlong { width := 5 } n := (overlong s _).mpr ⟨rfl, i, rfl, large⟩
    rw [renderChecked_style _ nothing, settled, read]
    simp only [Except.mapError_ok, bind, Except.bind, Style.writeChecked_of_overlong rounds exceeds]
    rfl
  refine ⟨by rintro (⟨⟨⟩, _⟩ | ⟨⟨⟩, _⟩), ?_, ?_⟩
  · exact refused _ (Int.natAbs_natCast _).ge
  · obtain ⟨n, read, rounds, overlong⟩ := IsNumber.toNumber (.int 1)
    obtain rfl : .ofInt 1 = n := Except.ok.inj read
    have small : ¬ s.Overlong { width := 5 } (.ofInt 1) := by
      rw [overlong]
      rintro ⟨_, i, ⟨⟩, large⟩
      exact Nat.not_le.mpr (Nat.one_lt_pow (by decide) (by decide)) large
    have found : (s.margin.asked 5 (s.pieces { width := 5 } (.ofInt 1))).find?
        (fun c => !decide (c ≠ '*')) = some '*' := by decide +kernel
    rw [renderChecked_style _ nothing, settled, read]
    simp only [Except.mapError_ok, bind, Except.bind, Style.writeChecked_eq rounds small, found]
    rfl

end Datum

end Numeral
