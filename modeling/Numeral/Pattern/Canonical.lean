import Numeral.Pattern.Scan

namespace Numeral

/-- Why no pattern says what a style says. -/
inductive Inexpressible where
  | alignAsFill (fill : Char)
  | zerosWithoutWidth
  | zeroWidth
  | spacingWithoutSeparator (spacing : Nat)
  | separatorOff
  | separator (c : Char)
  | point (c : Char)
  | digits (e : DigitError)
  deriving DecidableEq

def Inexpressible.message : Inexpressible → String
  | .alignAsFill c =>
    "fill " ++ String.ofList (Label.char c) ++ " is an align char and has no string form"
  | .zerosWithoutWidth => "zero flag without width has no string form"
  | .zeroWidth => "width 0 has no string form, leave width unset instead"
  | .spacingWithoutSeparator n =>
    "spacing " ++ String.ofList (decimalText n) ++ " without separator has no string form"
  | .separatorOff =>
    "separator " ++ String.ofList (Label.value "NoneType" Label.limit "None".toList) ++
      " has no string form, one of '_, ' expected"
  | .separator c =>
    "separator " ++ String.ofList (Label.text [c] Label.limit) ++
      " has no string form, one of '_, ' expected"
  | .point c => "decimal separator " ++ String.ofList (Label.char c) ++ " has no string form"
  | .digits e => e.message

/-- The shortest flags for a margin, together with the zero flag. -/
def Margin.flags : Margin → Except Inexpressible (Flags × Bool)
  | .plain .right => .ok (.none, false)
  | .plain a => .ok (.align a, false)
  | .filled c a =>
    match Align.ofChar? c with
    | some _ => .error (.alignAsFill c)
    | none => .ok (.pair c a, false)
  | .zeros false => .ok (.none, true)
  | .zeros true => .ok (.align .decimal, true)

/-- The digits that state a number. -/
def Digits.stated (n : Nat) : Except Inexpressible (Digits 10) :=
  (written limit n).mapError .digits

namespace Style

/-- The group for the width. The zero flag has no meaning without one. -/
def widthGroup (s : Style) : Except Inexpressible (Option Count) :=
  match s.width with
  | .unset => if s.zeroFilled then .error .zerosWithoutWidth else .ok none
  | .deferred => .ok (some .deferred)
  | .fixed 0 => .error .zeroWidth
  | .fixed n => (Digits.stated n).map fun run => some (.digits run)

def precisionGroup (s : Style) : Except Inexpressible (Option Count) :=
  match s.precision with
  | .unset => .ok none
  | .deferred => .ok (some .deferred)
  | .fixed n => (Digits.stated n).map fun run => some (.digits run)

/-- The group for the separator. A group size without a separator is refused with its digits, if it
has any. -/
def separatorGroup (s : Style) : Except Inexpressible (Option Grouping) :=
  match s.separator with
  | .unset =>
    if s.spacing = .thousands then .ok none
    else (Digits.stated s.spacing.size).bind fun _ => .error (.spacingWithoutSeparator s.spacing.size)
  | .off => .error .separatorOff
  | .char c =>
    match GroupMark.ofChar? c with
    | none => .error (.separator c)
    | some mark =>
      if s.spacing = .thousands then .ok (some ⟨mark, []⟩)
      else (Digits.stated s.spacing.size).map fun run => some ⟨mark, run⟩

/-- The shortest pattern for a style, or the first reason why it has none. -/
def pattern (s : Style) : Except Inexpressible Pattern := do
  let (flags, zero) ← s.margin.flags
  let width ← s.widthGroup
  let precision ← s.precisionGroup
  let grouping ← s.separatorGroup
  if s.point = '.' then
    pure {
      flags
      sign := if s.sign = .always then some .always else none
      alternate := s.alternate
      zero
      width
      precision
      radix := if s.radix = .decimal then none else some s.radix
      grouping }
  else
    throw (.point s.point)

/-- The canonical text of a style. -/
def canonical (s : Style) : Except Inexpressible String :=
  s.pattern.map fun p => String.ofList p.text

end Style

end Numeral
