import Numeral.Draft.Setter
import Numeral.Proofs.Grammar

namespace Numeral

/-- The calls that state a margin. Zeros are aligned first, since they keep alignment at the point. -/
def Margin.setters : Margin → List Setter
  | .plain a => [.align (.char a.char)]
  | .filled c a => [.fill (.char c), .align (.char a.char)]
  | .zeros atPoint => [.align (.char (Margin.zeros atPoint).align.char), .zero (.bool true)]

/-- The call that states a width, if there is one. -/
def Setting.widthSetters : Setting Nat → List Setter
  | .unset => []
  | .fixed n => [.width (.int n)]
  | .deferred => [.deferWidth]

/-- The call that states a precision, if there is one. -/
def Setting.precisionSetters : Setting Nat → List Setter
  | .unset => []
  | .fixed n => [.precision (.int n)]
  | .deferred => [.deferPrecision]

def Separator.setters : Separator → List Setter
  | .unset => []
  | .off => [.noSeparator]
  | .char c => [.separator (.char c)]

/-- The calls that state a style, one field after another. -/
def Style.setters (s : Style) : List Setter :=
  s.margin.setters ++
    ([.sign (.char s.sign.char), .alternate (.bool s.alternate)] ++
      (s.width.widthSetters ++
        (s.precision.precisionSetters ++
          ([.radix (.char s.radix.code)] ++
            (s.separator.setters ++ [.spacing (.int s.spacing.size), .point (.char s.point)])))))

/-- The calls for what a pattern says about filling. -/
def Flags.setters : Flags → List Setter
  | .none => []
  | .align a => [.align (.char a.char)]
  | .pair c a => [.fill (.char c), .align (.char a.char)]

/-- The call for a separator, and one for the size of a group if digits state it. -/
def Grouping.setters (g : Grouping) : List Setter :=
  .separator (.char g.mark.char) :: if g.run = [] then [] else [.spacing (.int g.run.value)]

/-- The calls for the groups of a pattern, in the order of the groups. -/
def Pattern.setters (p : Pattern) : List Setter :=
  p.flags.setters ++
    ((p.sign.map fun r => Setter.sign (.char r.char)).toList ++
      ((if p.alternate then [.alternate (.bool true)] else []) ++
        ((if p.zero then [.zero (.bool true)] else []) ++
          (((p.width.map Count.setting).getD .unset).widthSetters ++
            (((p.precision.map Count.setting).getD .unset).precisionSetters ++
              ((p.radix.map fun r => Setter.radix (.char r.code)).toList ++
                (p.grouping.map Grouping.setters).getD []))))))

namespace Style

variable (s : Style)

theorem applyAll_margin (m : Margin) :
    Draft.initial.applyAll m.setters = ({ margin := m } : Style).toDraft := by
  funext field
  cases m with
  | plain a => cases field <;> rfl
  | filled c a => cases field <;> rfl
  | zeros atPoint => cases atPoint <;> cases field <;> rfl

theorem apply_sign (r : SignRule) :
    s.toDraft.apply (.sign (.char r.char)) = ({ s with sign := r } : Style).toDraft := by
  funext field
  cases field <;> rfl

theorem apply_alternate (b : Bool) :
    s.toDraft.apply (.alternate (.bool b)) = ({ s with alternate := b } : Style).toDraft := by
  funext field
  cases field <;> rfl

theorem applyAll_width (blank : s.width = .unset) (n : Setting Nat) :
    s.toDraft.applyAll n.widthSetters = ({ s with width := n } : Style).toDraft := by
  cases n with
  | unset =>
    cases s
    cases blank
    rfl
  | fixed n | deferred => funext field; cases field <;> rfl

theorem applyAll_precision (blank : s.precision = .unset) (n : Setting Nat) :
    s.toDraft.applyAll n.precisionSetters = ({ s with precision := n } : Style).toDraft := by
  cases n with
  | unset =>
    cases s
    cases blank
    rfl
  | fixed n | deferred => funext field; cases field <;> rfl

theorem apply_radix (r : Radix) :
    s.toDraft.apply (.radix (.char r.code)) = ({ s with radix := r } : Style).toDraft := by
  funext field
  cases field <;> rfl

theorem applyAll_separator (blank : s.separator = .unset) (separator : Separator) :
    s.toDraft.applyAll separator.setters = ({ s with separator } : Style).toDraft := by
  cases separator with
  | unset =>
    cases s
    cases blank
    rfl
  | off | char c => funext field; cases field <;> rfl

theorem apply_spacing (spacing : Spacing) :
    s.toDraft.apply (.spacing (.int spacing.size)) = ({ s with spacing } : Style).toDraft := by
  funext field
  cases field <;> rfl

theorem apply_point (c : Char) :
    s.toDraft.apply (.point (.char c)) = ({ s with point := c } : Style).toDraft := by
  funext field
  cases field <;> rfl

/-- The calls that state a style lead from the empty draft to its fields. -/
theorem applyAll_setters : Draft.initial.applyAll s.setters = s.toDraft := by
  simp only [setters, Draft.applyAll_append]
  rw [applyAll_margin]
  simp only [Draft.applyAll_cons, Draft.applyAll_nil, apply_sign, apply_alternate]
  rw [applyAll_width _ rfl, applyAll_precision _ rfl, apply_radix, applyAll_separator _ rfl,
    apply_spacing, apply_point]

theorem applyAll_flags (f : Flags) : Draft.initial.applyAll f.setters =
    ({ margin := Pattern.margin { flags := f } } : Style).toDraft := by
  funext field
  cases f <;> cases field <;> rfl

theorem applyAll_sign (r : Option SignRule) :
    s.toDraft.applyAll (r.map fun r => Setter.sign (.char r.char)).toList =
      ({ s with sign := r.getD s.sign } : Style).toDraft := by
  cases r with
  | none => rfl
  | some r => exact s.apply_sign r

theorem applyAll_alternate (off : s.alternate = false) (b : Bool) :
    s.toDraft.applyAll (if b then [.alternate (.bool true)] else []) =
      ({ s with alternate := b } : Style).toDraft := by
  cases b with
  | true => exact s.apply_alternate true
  | false =>
    cases s
    cases off
    rfl

/-- Turning the zero flag on keeps alignment at the point alone. -/
theorem applyAll_zero (zero : Bool) :
    s.toDraft.applyAll (if zero then [.zero (.bool true)] else []) =
      ({ s with margin := if zero then .zeros (s.margin.align = .decimal) else s.margin } :
        Style).toDraft := by
  cases zero with
  | false => rfl
  | true =>
    funext field
    cases field with
    | align =>
      have kept (a : Align) : (if (Datum.char a.char).isText "v" then Datum.char a.char
          else .char '>') = .char (Margin.zeros (a = .decimal)).align.char := by
        cases a <;> rfl
      exact kept s.margin.align
    | _ => rfl

theorem applyAll_radix (r : Option Radix) :
    s.toDraft.applyAll (r.map fun r => Setter.radix (.char r.code)).toList =
      ({ s with radix := r.getD s.radix } : Style).toDraft := by
  cases r with
  | none => rfl
  | some r => exact s.apply_radix r

theorem applyAll_grouping (thousands : s.spacing = .thousands) {g : Option Grouping}
    (positive : ∀ g', g = some g' → g'.run ≠ [] → 0 < g'.run.value) :
    s.toDraft.applyAll ((g.map Grouping.setters).getD []) =
      ({ s with
        separator := (g.map fun g => Separator.char g.mark.char).getD s.separator
        spacing := (g.map Grouping.spacing).getD s.spacing } : Style).toDraft := by
  cases g with
  | none => rfl
  | some g =>
    obtain ⟨mark, run⟩ := g
    cases run with
    | nil =>
      funext field
      cases field with
      | spacing => exact congrArg (fun spacing : Spacing => Datum.int spacing.size) thousands
      | _ => rfl
    | cons d ds =>
      have nonempty : d :: ds ≠ [] := List.cons_ne_nil d ds
      have size := Grouping.spacing_size nonempty (positive _ rfl nonempty)
      funext field
      cases field with
      | spacing => exact congrArg (fun n : Nat => Datum.int n) size.symm
      | _ => rfl

end Style

namespace Pattern

variable {p : Pattern}

/-- The zero flag turns the margin of the flags in front of it into zeros. -/
theorem margin_eq_zeros (wf : p.WellFormed) :
    (if p.zero then .zeros ((margin { flags := p.flags }).align = .decimal)
      else margin { flags := p.flags }) = p.margin := by
  cases zero : p.zero with
  | false =>
    simp only [margin, zero]
    rfl
  | true =>
    have unpaired := (wf.zero zero).2
    unfold margin
    rw [zero]
    cases flags : p.flags with
    | none => rfl
    | align a => rfl
    | pair c a => exact absurd flags (unpaired c a)

/-- The calls for the groups of a pattern lead from the empty draft to the fields of its style. -/
theorem applyAll_setters (wf : p.WellFormed) :
    Draft.initial.applyAll p.setters = p.style.toDraft := by
  simp only [setters, Draft.applyAll_append]
  rw [Style.applyAll_flags, Style.applyAll_sign, Style.applyAll_alternate _ rfl,
    Style.applyAll_zero, Style.applyAll_width _ rfl, Style.applyAll_precision _ rfl,
    Style.applyAll_radix, Style.applyAll_grouping _ rfl wf.spacing]
  simp only [margin_eq_zeros wf]
  rfl

end Pattern

namespace Style

/-- A text that is accepted splits into groups in one way, and the calls for these groups, made on an
empty draft in their order, build the style that is read from the text. Every style, whether a text
says it or not, is built from an empty draft by some calls, and its own fields build it again. -/
theorem built_by_setters :
    (∀ (text : String) (s : Style), Style.parse text = .ok s →
      ∃ p : Pattern, p.WellFormed ∧ p.text = text.toList ∧
        (∀ q : Pattern, q.WellFormed → q.text = text.toList → q = p) ∧
        (Draft.initial.applyAll p.setters).toStyle = .ok s) ∧
    ∀ s : Style, (∃ setters, (Draft.initial.applyAll setters).toStyle = .ok s) ∧
      s.toDraft.toStyle = .ok s := by
  refine ⟨fun text s read => ?_, fun s => ⟨⟨s.setters, ?_⟩, s.toStyle_toDraft⟩⟩
  · obtain ⟨p, wf, _, written, rfl⟩ := parse_eq_ok_iff.mp read
    refine ⟨p, wf, written, fun q wf' written' => ?_, ?_⟩
    · exact Pattern.eq_of_text_eq wf' wf (written'.trans written.symm)
    · rw [Pattern.applyAll_setters wf, toStyle_toDraft]
  · rw [applyAll_setters, toStyle_toDraft]

end Style

end Numeral
