import Numeral.Draft.Lemmas
import Numeral.Proofs.Rendering

namespace Numeral

/-- Whether a supplied value takes the place of what a style says: always for a deferred quantity,
and for any other one as far as the policy goes. -/
def Policy.Replaces {α : Type} (policy : Policy) (setting : Setting α) : Prop :=
  setting = .deferred ∨ policy = .always ∨ policy = .ifUnset ∧ setting = .unset

instance {α : Type} [DecidableEq α] (policy : Policy) (setting : Setting α) :
    Decidable (policy.Replaces setting) :=
  inferInstanceAs (Decidable (_ ∨ _ ∨ _ ∧ _))

theorem Setting.supply_of_replaces {α : Type} {policy : Policy} {s : Setting α}
    (replaces : policy.Replaces s) (v : α) : s.supply policy (some v) = .fixed v := by
  rcases replaces with rfl | rfl | ⟨rfl, rfl⟩
  · cases policy <;> rfl
  · cases s <;> rfl
  · rfl

theorem Setting.supply_of_not_replaces {α : Type} {policy : Policy} {s : Setting α}
    (kept : ¬ policy.Replaces s) (supplied : Option α) : s.supply policy supplied = s := by
  cases supplied with
  | none => exact s.supply_none policy
  | some v =>
    cases s with
    | deferred => exact absurd (Or.inl rfl) kept
    | unset =>
      cases policy with
      | always => exact absurd (Or.inr (Or.inl rfl)) kept
      | ifUnset => exact absurd (Or.inr (Or.inr ⟨rfl, rfl⟩)) kept
      | deferredOnly => rfl
    | fixed w =>
      cases policy with
      | always => exact absurd (Or.inr (Or.inl rfl)) kept
      | ifUnset | deferredOnly => rfl

namespace Overrides

/-- The patch that puts a supplied width or precision into a style where the policy lets it replace
what the style says, and a supplied group size under the policy that replaces everything. A field
for which nothing is supplied is not named. -/
def patchFor (o : Overrides) (s : Style) : Patch
  | .width =>
    match o.width with
    | some n => if o.policy.Replaces s.width then .int n else .unset
    | none => .unset
  | .precision =>
    match o.precision with
    | some n => if o.policy.Replaces s.precision then .int n else .unset
    | none => .unset
  | .spacing =>
    match o.spacing with
    | some spacing => if o.policy = .always then .int spacing.size else .unset
    | none => .unset
  | _ => .unset

/-- The style that holds what is in force. -/
def settle (o : Overrides) (s : Style) : Style :=
  { s with
    width := s.width.supply o.policy o.width
    precision := s.precision.supply o.policy o.precision
    spacing := o.spacingFor s }

end Overrides

/-- Replacing a count by a supplied one, or leaving it, is what supplying the count comes to. -/
theorem Setting.toDatum_supply (policy : Policy) (supplied : Option Nat) (s : Setting Nat) :
    Datum.orElse
      (match supplied with
        | some n => if policy.Replaces s then .int n else .unset
        | none => .unset) s.toDatum = (s.supply policy supplied).toDatum := by
  cases supplied with
  | none => rw [supply_none]; rfl
  | some n =>
    by_cases replaces : policy.Replaces s
    · simp only [if_pos replaces, supply_of_replaces replaces]
      rfl
    · simp only [if_neg replaces, supply_of_not_replaces replaces]
      rfl

theorem Overrides.orElse_spacing (o : Overrides) (s : Style) :
    Datum.orElse (o.patchFor s .spacing) (.int s.spacing.size) = .int (o.spacingFor s).size := by
  unfold patchFor spacingFor
  cases o.spacing with
  | none => rfl
  | some spacing =>
    cases o.policy with
    | always => rfl
    | ifUnset | deferredOnly => rfl

/-- The patch makes of a style the one that holds what is in force. -/
theorem Style.merge_patchFor (s : Style) (o : Overrides) :
    s.merge (o.patchFor s) = .ok (o.settle s) := by
  have fields : s.toDraft.patched (o.patchFor s).normal = (o.settle s).toDraft := by
    funext field
    cases field with
    | width => exact Setting.toDatum_supply o.policy o.width s.width
    | precision => exact Setting.toDatum_supply o.policy o.precision s.precision
    | spacing => exact o.orElse_spacing s
    | fill | align | sign | alternate | mode | radix | separator | point => rfl
  rw [merge, fields, toStyle_toDraft]

/-- Nothing is left to supply to a style that holds what is in force. -/
theorem Style.measures_settle (s : Style) (o : Overrides) :
    (o.settle s).measures {} = s.measures o := by
  simp only [measures, Overrides.widthFor, Overrides.precisionFor, Overrides.settle,
    Setting.supply_none]
  rfl

/-- Supplying values at the moment of writing comes to the same as putting them into the style
before, whatever is written and whatever goes wrong, the refusal of an operation included. -/
theorem Datum.render_eq_render_merged (s : Style) (o : Overrides) (value : Datum) :
    ∃ merged, s.merge (o.patchFor s) = .ok merged ∧
      Datum.render (.style s) value (.overrides o) = Datum.render (.style merged) value .none ∧
      ∀ encodable, Datum.renderChecked encodable (.style s) value (.overrides o) =
        Datum.renderChecked encodable (.style merged) value .none := by
  have supplied : (Datum.overrides o).toOverrides = .ok o := rfl
  have nothing : Datum.none.toOverrides = .ok {} := rfl
  refine ⟨o.settle s, s.merge_patchFor o, ?_, fun encodable => ?_⟩
  · have written : (o.settle s).write = s.write := rfl
    rw [Datum.render_style supplied, Datum.render_style nothing, s.measures_settle, written]
  · have written : (o.settle s).writeChecked encodable = s.writeChecked encodable := rfl
    rw [Datum.renderChecked_style encodable supplied, Datum.renderChecked_style encodable nothing,
      s.measures_settle, written]

end Numeral
