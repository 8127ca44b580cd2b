namespace Numeral

/-- A quantity that a style may leave open: not given at all, given once and for all, or deferred
to the moment of writing. -/
inductive Setting (α : Type) where
  | unset
  | fixed (value : α)
  | deferred
  deriving DecidableEq

/-- When a supplied value replaces what a style says. A deferred quantity takes the supplied value
under every policy, so the policies differ only on quantities that are fixed or unset. -/
inductive Policy where
  | always
  | ifUnset
  | deferredOnly
  deriving DecidableEq

namespace Setting

/-- The quantity in force once `supplied` has been taken into account. It is still deferred only
if nothing was supplied for a deferred quantity. -/
def supply {α : Type} (policy : Policy) (supplied : Option α) (setting : Setting α) : Setting α :=
  match supplied, setting, policy with
  | none, s, _ => s
  | some v, .deferred, _ => .fixed v
  | some v, _, .always => .fixed v
  | some v, .unset, .ifUnset => .fixed v
  | some _, s, _ => s

theorem supply_none {α : Type} (policy : Policy) (s : Setting α) : s.supply policy none = s := by
  cases s <;> cases policy <;> rfl

theorem supply_eq_deferred_iff {α : Type} (policy : Policy) (supplied : Option α) (s : Setting α) :
    s.supply policy supplied = .deferred ↔ s = .deferred ∧ supplied = none := by
  cases supplied <;> cases s <;> cases policy <;> simp [supply]

end Setting

end Numeral
