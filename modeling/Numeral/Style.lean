import Numeral.Margin
import Numeral.Radix
import Numeral.Setting

namespace Numeral

/-- Which signs are written: a minus below zero only, or always one of the two. -/
inductive SignRule where
  | negativeOnly
  | always
  deriving DecidableEq

namespace SignRule

def all : List SignRule :=
  [.negativeOnly, .always]

def char : SignRule → Char
  | .negativeOnly => '-'
  | .always => '+'

def ofChar? (c : Char) : Option SignRule :=
  all.find? (·.char = c)

theorem ofChar?_char (s : SignRule) : ofChar? s.char = some s := by
  cases s <;> rfl

theorem char_inj {s t : SignRule} : s.char = t.char ↔ s = t := by
  refine ⟨fun same => ?_, fun same => by rw [same]⟩
  have found := ofChar?_char s
  rw [same, ofChar?_char] at found
  exact (Option.some.inj found).symm

theorem ofChar?_eq_some_iff {c : Char} {s : SignRule} : ofChar? c = some s ↔ c = s.char := by
  refine ⟨fun found => ?_, fun same => by rw [same, ofChar?_char]⟩
  have here := List.find?_some found
  exact (of_decide_eq_true here).symm

end SignRule

/-- What stands between groups of integral digits. Leaving it unset and turning it off write alike;
they differ in that only the first is the meaning of a pattern without a separator. -/
inductive Separator where
  | unset
  | off
  | char (c : Char)
  deriving DecidableEq

/-- The character between groups, if digits are grouped at all. -/
def Separator.mark? : Separator → Option Char
  | .char c => some c
  | _ => none

/-- The number of digits in a group. -/
structure Spacing where
  size : Nat
  size_pos : 0 < size := by decide
  deriving DecidableEq

/-- Three digits in a group. -/
def Spacing.thousands : Spacing :=
  ⟨3, by decide⟩

def Spacing.ofNat? (n : Nat) : Option Spacing :=
  if h : 0 < n then some ⟨n, h⟩ else none

/-- How a number is written. Whatever a style says can be written; only a deferred width or
precision has to be supplied first. -/
structure Style where
  margin : Margin := .plain .right
  sign : SignRule := .negativeOnly
  alternate : Bool := false
  width : Setting Nat := .unset
  precision : Setting Nat := .unset
  radix : Radix := .decimal
  separator : Separator := .unset
  spacing : Spacing := .thousands
  point : Char := '.'
  deriving DecidableEq

namespace Style

/-- The base marker that the style asks for. -/
def marker (s : Style) : List Char :=
  if s.alternate then s.radix.marker else []

/-- Whether integral digits are grouped. -/
def grouped (s : Style) : Bool :=
  s.separator.mark?.isSome

/-- Whether width or precision has to be supplied. -/
def isDeferred (s : Style) : Bool :=
  s.width = .deferred || s.precision = .deferred

/-- Whether the unused width is filled with zeros. -/
def zeroFilled (s : Style) : Bool :=
  s.margin.mode = .zeros

end Style

end Numeral
