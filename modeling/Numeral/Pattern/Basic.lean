import Numeral.Style

namespace Numeral

/-- The separators that a pattern can name. -/
inductive GroupMark where
  | underscore
  | comma
  | blank
  deriving DecidableEq

namespace GroupMark

def all : List GroupMark :=
  [.underscore, .comma, .blank]

def char : GroupMark → Char
  | .underscore => '_'
  | .comma => ','
  | .blank => ' '

def ofChar? (c : Char) : Option GroupMark :=
  all.find? (·.char = c)

theorem ofChar?_char (m : GroupMark) : ofChar? m.char = some m := by
  cases m <;> rfl

theorem ofChar?_eq_some_iff {c : Char} {m : GroupMark} : ofChar? c = some m ↔ c = m.char := by
  refine ⟨fun found => ?_, fun same => by rw [same, ofChar?_char]⟩
  have here := List.find?_some found
  exact (of_decide_eq_true here).symm

theorem ofChar?_eq_none_iff {c : Char} :
    ofChar? c = none ↔ ∀ m : GroupMark, m.char ≠ c := by
  rw [Option.eq_none_iff_forall_ne_some]
  exact forall_congr' fun m => not_congr (ofChar?_eq_some_iff.trans eq_comm)

end GroupMark

/-- What a pattern says about filling: nothing, where the number stands, or that together with the
character to fill with. -/
inductive Flags where
  | none
  | align (align : Align)
  | pair (fill : Char) (align : Align)
  deriving DecidableEq

/-- A width or precision as a pattern states it. The digits are kept as written, leading zeros
included. -/
inductive Count where
  | deferred
  | digits (run : Digits 10)
  deriving DecidableEq

/-- A separator with the digits that state the size of a group; without digits the size is left
open. -/
structure Grouping where
  mark : GroupMark
  run : Digits 10
  deriving DecidableEq

/-- The groups of a pattern, in the order in which they are written. Each may be absent. -/
structure Pattern where
  flags : Flags := .none
  sign : Option SignRule := none
  alternate : Bool := false
  zero : Bool := false
  width : Option Count := none
  precision : Option Count := none
  radix : Option Radix := none
  grouping : Option Grouping := none
  deriving DecidableEq

def Flags.text : Flags → List Char
  | .none => []
  | .align a => [a.char]
  | .pair c a => [c, a.char]

def Count.text : Count → List Char
  | .deferred => ['$']
  | .digits run => run.chars

/-- What the count says about the style. -/
def Count.setting : Count → Setting Nat
  | .deferred => .deferred
  | .digits run => .fixed run.value

def Grouping.text (g : Grouping) : List Char :=
  g.mark.char :: g.run.chars

/-- The size of a group, three if it is left open. -/
def Grouping.spacing (g : Grouping) : Spacing :=
  if g.run = [] then .thousands else (Spacing.ofNat? g.run.value).getD .thousands

theorem Grouping.spacing_size {g : Grouping} (nonempty : g.run ≠ []) (positive : 0 < g.run.value) :
    g.spacing.size = g.run.value := by
  simp only [spacing, if_neg nonempty, Spacing.ofNat?, dif_pos positive, Option.getD_some]

namespace Pattern

/-- The written form of a pattern: its groups one after another. -/
def text (p : Pattern) : List Char :=
  p.flags.text ++
    ((p.sign.map SignRule.char).toList ++
      ((if p.alternate then ['#'] else []) ++
        ((if p.zero then ['0'] else []) ++
          ((p.width.map Count.text).getD [] ++
            ((p.precision.map fun count => '.' :: count.text).getD [] ++
              ((p.radix.map Radix.code).toList ++
                (p.grouping.map Grouping.text).getD []))))))

/-- What a pattern says about filling once the zero flag is taken into account. The flag keeps
alignment at the point and stands for alignment on the right otherwise. -/
def margin (p : Pattern) : Margin :=
  match p.flags, p.zero with
  | .pair c a, _ => .filled c a
  | .align a, false => .plain a
  | .align a, true => .zeros (a = .decimal)
  | .none, false => .plain .right
  | .none, true => .zeros false

/-- The meaning of a pattern. What an absent group would state is left as it is by default. -/
def style (p : Pattern) : Style where
  margin := p.margin
  sign := p.sign.getD .negativeOnly
  alternate := p.alternate
  width := (p.width.map Count.setting).getD .unset
  precision := (p.precision.map Count.setting).getD .unset
  radix := p.radix.getD .decimal
  separator := (p.grouping.map fun g => Separator.char g.mark.char).getD .unset
  spacing := (p.grouping.map Grouping.spacing).getD .thousands

/-- The conditions on the groups that their types do not state. -/
structure WellFormed (p : Pattern) : Prop where
  fill : ∀ c a, p.flags = .pair c a → ∀ b : Align, b.char ≠ c
  zero : p.zero = true → p.width ≠ none ∧ ∀ c a, p.flags ≠ .pair c a
  width : ∀ run, p.width = some (.digits run) → ∃ d rest, run = d :: rest ∧ d ≠ 0
  precision : ∀ run, p.precision = some (.digits run) → run ≠ []
  spacing : ∀ g, p.grouping = some g → g.run ≠ [] → 0 < g.run.value

/-- No number of the pattern has more than `most` digits. -/
structure Legible (most : Nat) (p : Pattern) : Prop where
  width : ∀ run, p.width = some (.digits run) → run.length ≤ most
  precision : ∀ run, p.precision = some (.digits run) → run.length ≤ most
  spacing : ∀ g, p.grouping = some g → g.run.length ≤ most

end Pattern

end Numeral
