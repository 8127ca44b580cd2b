namespace Numeral

/-- Where a number stands within its width. Under `decimal` the point stands in a fixed column,
and a number without a fraction stands on the right. -/
inductive Align where
  | left
  | center
  | right
  | decimal
  deriving DecidableEq

namespace Align

def all : List Align :=
  [.left, .center, .right, .decimal]

def char : Align → Char
  | .left => '<'
  | .center => '^'
  | .right => '>'
  | .decimal => 'v'

def ofChar? (c : Char) : Option Align :=
  all.find? (·.char = c)

theorem ofChar?_char (a : Align) : ofChar? a.char = some a := by
  cases a <;> rfl

theorem char_inj {a b : Align} : a.char = b.char ↔ a = b := by
  refine ⟨fun same => ?_, fun same => by rw [same]⟩
  have found := ofChar?_char a
  rw [same, ofChar?_char] at found
  exact (Option.some.inj found).symm

theorem ofChar?_eq_some_iff {c : Char} {a : Align} : ofChar? c = some a ↔ c = a.char := by
  refine ⟨fun found => ?_, fun same => by rw [same, ofChar?_char]⟩
  have here := List.find?_some found
  exact (of_decide_eq_true here).symm

theorem ofChar?_eq_none_iff {c : Char} : ofChar? c = none ↔ ∀ a : Align, a.char ≠ c := by
  rw [Option.eq_none_iff_forall_ne_some]
  exact forall_congr' fun a => not_congr (ofChar?_eq_some_iff.trans eq_comm)

end Align

/-- The three ways in which the unused part of a width is filled. -/
inductive PadMode where
  | plain
  | filled
  | zeros
  deriving DecidableEq

/-- How the unused part of a width is filled.

`plain` pads with blanks around sign, marker and digits together. `filled` pads with a character
of its own around the digits alone: sign and marker stand before the padding and are not counted.
`zeros` puts zeros between sign or marker and the digits, on the right or, with `atPoint`, before
the column of the point; then all is counted. -/
inductive Margin where
  | plain (align : Align)
  | filled (fill : Char) (align : Align)
  | zeros (atPoint : Bool)
  deriving DecidableEq

namespace Margin

def fill : Margin → Char
  | .plain _ => ' '
  | .filled c _ => c
  | .zeros _ => '0'

def align : Margin → Align
  | .plain a => a
  | .filled _ a => a
  | .zeros atPoint => if atPoint then .decimal else .right

def mode : Margin → PadMode
  | .plain _ => .plain
  | .filled .. => .filled
  | .zeros _ => .zeros

end Margin

end Numeral
