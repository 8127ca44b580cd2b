import Numeral.Draft.Lemmas
import Numeral.Draft.Patch
import Numeral.Pattern.Basic

namespace Numeral

/-- The fields that the groups of a pattern state, as data. An absent group leaves its fields
unset; the zero flag stands for fill, alignment and mode, but keeps alignment at the point. -/
def Pattern.fields (p : Pattern) : Patch
  | .fill =>
    match p.zero, p.flags with
    | true, _ => .char '0'
    | false, .pair c _ => .char c
    | false, _ => .unset
  | .align =>
    match p.zero, p.flags with
    | true, .align a => .char (if a = .decimal then a else .right).char
    | true, _ => .char Align.right.char
    | false, .align a => .char a.char
    | false, .pair _ a => .char a.char
    | false, .none => .unset
  | .mode =>
    match p.zero, p.flags with
    | true, _ => .str PadMode.zeros.text
    | false, .pair _ _ => .str PadMode.filled.text
    | false, _ => .unset
  | .sign => (p.sign.map fun s => Datum.char s.char).getD .unset
  | .alternate => if p.alternate then .bool true else .unset
  | .width => (p.width.map fun n => n.setting.toDatum).getD .unset
  | .precision => (p.precision.map fun n => n.setting.toDatum).getD .unset
  | .radix => (p.radix.map fun r => Datum.char r.code).getD .unset
  | .separator => (p.grouping.map fun g => Datum.char g.mark.char).getD .unset
  | .spacing =>
    match p.grouping with
    | none => .unset
    | some g => if g.run = [] then .unset else .int g.run.value
  | .point => .unset

namespace Pattern

variable {p : Pattern}

/-- The three fields that make a margin: what the pattern says about them, and the default where it
says nothing. -/
theorem margin_fields (wf : p.WellFormed) :
    (p.fields .fill).orElse (.char ' ') = .char p.margin.fill ∧
      (p.fields .align).orElse (.char '>') = .char p.margin.align.char ∧
      (p.fields .mode).orElse (.str PadMode.plain.text) = .str p.margin.mode.text := by
  unfold fields margin
  cases flags : p.flags with
  | none => cases p.zero <;> exact ⟨rfl, rfl, rfl⟩
  | pair c a =>
    cases zero : p.zero with
    | false => exact ⟨rfl, rfl, rfl⟩
    | true => exact absurd flags ((wf.zero zero).2 c a)
  | align a =>
    cases p.zero with
    | false => exact ⟨rfl, rfl, rfl⟩
    | true => cases a <;> exact ⟨rfl, rfl, rfl⟩

theorem count_field (n : Option Count) :
    ((n.map fun n : Count => n.setting.toDatum).getD .unset).orElse .unset =
      ((n.map Count.setting).getD .unset).toDatum := by
  cases n with
  | none => rfl
  | some n => cases n <;> rfl

theorem spacing_field (wf : p.WellFormed) :
    (p.fields .spacing).orElse (.int 3) = .int (p.style.spacing.size : Nat) := by
  unfold fields style
  cases grouping : p.grouping with
  | none => rfl
  | some g =>
    simp only [Option.map_some, Option.getD_some]
    split
    · next empty =>
      rw [Grouping.spacing, if_pos empty]
      rfl
    · next nonempty =>
      rw [Grouping.spacing_size nonempty (wf.spacing g grouping nonempty)]
      rfl

/-- The fields that a pattern states, put in the place of the defaults, are those of its style. -/
theorem patched_fields (wf : p.WellFormed) : Draft.initial.patched p.fields = p.style.toDraft := by
  obtain ⟨fill, align, mode⟩ := margin_fields wf
  have spacing := spacing_field wf
  obtain ⟨_, sign, alternate, _, width, precision, radix, grouping⟩ := p
  funext field
  cases field with
  | fill => exact fill
  | align => exact align
  | mode => exact mode
  | sign => cases sign <;> rfl
  | alternate => cases alternate <;> rfl
  | width => exact count_field width
  | precision => exact count_field precision
  | radix => cases radix <;> rfl
  | separator => cases grouping <;> rfl
  | spacing => exact spacing
  | point => rfl

end Pattern

end Numeral
