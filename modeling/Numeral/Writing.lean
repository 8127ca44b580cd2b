import Numeral.Layout
import Numeral.Number.Basic
import Numeral.Overrides.Basic

namespace Numeral

/-- The quantities in force for one writing. -/
structure Measures where
  width : Nat := 0
  precision : Option Nat := none
  spacing : Spacing := .thousands
  deriving DecidableEq

/-- The sign that the rule asks for. -/
def SignRule.text (rule : SignRule) (negative : Bool) : List Char :=
  if negative then ['-'] else if rule = .always then ['+'] else []

namespace Style

/-- Settles width, precision and spacing, or names the first one that is missing. -/
def measures (s : Style) (o : Overrides) : Except MissingOverride Measures := do
  let width ← o.widthFor s
  let precision ← o.precisionFor s
  pure { width := width.getD 0, precision, spacing := o.spacingFor s }

/-- The integral digits in the base of the style, grouped if the style says so. -/
def integral (s : Style) (spacing : Spacing) (whole : Nat) : List Char :=
  let digits := s.radix.text whole
  match s.separator.mark? with
  | some mark => group mark spacing.size digits
  | none => digits

/-- The parts of a number. A number without digits has neither base marker nor fraction and is not
grouped. -/
def pieces (s : Style) (m : Measures) (n : Number) : Pieces :=
  let sign := s.sign.text n.negative
  match n.special with
  | some special => { lead := sign, integral := special.text.toList }
  | none =>
    let x := (m.precision.elim n fun p => n.rounded p).magnitude
    { lead := sign ++ s.marker
      integral := s.integral m.spacing x.whole
      tail := if x.places = 0 then [] else s.point :: x.fraction.chars }

/-- Writes a number once all quantities are settled. -/
def write (s : Style) (m : Measures) (n : Number) : List Char :=
  s.margin.pad m.width (s.pieces m n)

end Style

end Numeral
