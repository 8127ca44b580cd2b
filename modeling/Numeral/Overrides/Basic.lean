import Numeral.Style

namespace Numeral

/-- What can be supplied at the moment of writing. -/
inductive Quantity where
  | width
  | precision
  | spacing
  deriving DecidableEq

def Quantity.name : Quantity → String
  | .width => "width"
  | .precision => "precision"
  | .spacing => "spacing"

namespace Policy

def all : List Policy :=
  [.always, .ifUnset, .deferredOnly]

def text : Policy → String
  | .always => "always"
  | .ifUnset => "if_unset"
  | .deferredOnly => "dynamic_only"

end Policy

/-- The values supplied at the moment of writing, and when they replace what a style says. -/
structure Overrides where
  width : Option Nat := none
  precision : Option Nat := none
  spacing : Option Spacing := none
  policy : Policy := .always
  deriving DecidableEq

/-- A style defers a quantity and nothing was supplied for it. -/
structure MissingOverride where
  quantity : Quantity
  deriving DecidableEq

def MissingOverride.message (e : MissingOverride) : String :=
  let name := e.quantity.name
  name ++ " is dynamic ('$') but no " ++ name ++ " override was supplied"

/-- What is in force for a quantity: `none` if it was left unset. -/
def Setting.inForce {α : Type} (quantity : Quantity) :
    Setting α → Except MissingOverride (Option α)
  | .unset => .ok none
  | .fixed v => .ok (some v)
  | .deferred => .error ⟨quantity⟩

namespace Overrides

/-- The width in force. -/
def widthFor (o : Overrides) (s : Style) : Except MissingOverride (Option Nat) :=
  (s.width.supply o.policy o.width).inForce .width

/-- The precision in force. -/
def precisionFor (o : Overrides) (s : Style) : Except MissingOverride (Option Nat) :=
  (s.precision.supply o.policy o.precision).inForce .precision

/-- The group size in force. A style always has one, so that it is replaced only under the policy
that replaces everything. -/
def spacingFor (o : Overrides) (s : Style) : Spacing :=
  match o.spacing, o.policy with
  | some spacing, .always => spacing
  | _, _ => s.spacing

end Overrides

end Numeral
