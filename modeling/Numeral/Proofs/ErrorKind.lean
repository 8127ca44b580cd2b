import Numeral.Proofs.Grammar
import Numeral.Proofs.Halting

namespace Numeral

open Pattern (Starts)

/-- What keeps the reading of a text from going on behind the whole pattern `p`, by the class of the
error: a zero flag behind fill and alignment, a group size of nothing but zeros, a letter where the
base may stand, and a character where the separator may stand that no pattern holds anywhere. -/
inductive Pattern.Blocks (classes : Unicode.Classes) (p : Pattern) (rest : List Char) :
    PatternErrorKind → Prop
  | zeroAfterPair {fill : Char} {align : Align} {tail : List Char} :
      p = { flags := .pair fill align, sign := p.sign, alternate := p.alternate } →
      rest = '0' :: tail → Blocks classes p rest .flagConflict
  | zeroSpacing {mark : GroupMark} {k : Nat} {tail : List Char} :
      p.grouping = some ⟨mark, []⟩ → rest = List.replicate (k + 1) '0' ++ tail →
      Starts (fun c => ∀ d : Digit, d.char ≠ c) tail → Blocks classes p rest .malformedNumber
  | letter {c : Char} {tail : List Char} :
      p.radix = none → p.grouping = none → rest = c :: tail → classes.letter c = true →
      (∀ r : Radix, r.code ≠ c) → Blocks classes p rest .unknownRadix
  | symbol {c : Char} {tail : List Char} :
      p.grouping = none → rest = c :: tail → classes.letterOrNumeral c = false →
      (∀ m : GroupMark, m.char ≠ c) → c ∉ ['<', '^', '>', 'v', '+', '-', '#', '$', '.'] →
      Blocks classes p rest .unknownSeparator

/-- What keeps the reading of a text from going on at the place between `before` and `rest`, by the
class of the error. The place is behind a whole pattern, or behind a zero flag where no width starts
or behind a point where no precision does. -/
inductive Blocked (classes : Unicode.Classes) (before rest : List Char) : PatternErrorKind → Prop
  | behind {p : Pattern} {kind : PatternErrorKind} :
      p.WellFormed → before = p.text → p.Blocks classes rest kind →
      Blocked classes before rest kind
  | noWidth {flags : Flags} {sign : Option SignRule} {alternate : Bool} :
      (∀ fill align, flags ≠ .pair fill align) →
      before = Pattern.text { flags, sign, alternate } ++ ['0'] →
      Starts (fun c => c ≠ '$' ∧ ∀ d : Digit, d ≠ 0 → d.char ≠ c) rest →
      Blocked classes before rest .malformedNumber
  | noPrecision {p : Pattern} :
      p.WellFormed → p.precision = none → p.radix = none → p.grouping = none →
      before = p.text ++ ['.'] → Starts (fun c => c ≠ '$' ∧ ∀ d : Digit, d.char ≠ c) rest →
      Blocked classes before rest .malformedNumber

/-- What keeps the reading from going on at the place of the error. -/
def PatternError.Blocked (classes : Unicode.Classes) (e : PatternError) : PatternErrorKind → Prop :=
  Numeral.Blocked classes (e.text.take e.position) (e.text.drop e.position)

namespace Pattern

variable {classes : Unicode.Classes} {most : Nat} {p : Pattern} {rest : List Char}

section wellFormed

variable {cs after : List Char}

theorem WellFormed.zeroWidth (wf : p.WellFormed) {zero : Bool} {width : Option Count}
    (read : Scan.zeroWidth most p.flags cs = .ok ((zero, width), after)) :
    WellFormed { p with zero, width } := by
  obtain ⟨rest, flag, counted⟩ := Scan.zeroWidth_eq_ok_iff.mp read
  obtain ⟨_, present, leading⟩ := Scan.width_eq counted
  have unpaired := (Scan.zero_eq flag).2
  exact { wf with
    zero := fun flagged => ⟨present flagged, unpaired flagged⟩
    width := leading.1 }

end wellFormed

section steps

variable {stop : Stop}

end steps

theorem Blocks.unique {kind kind' : PatternErrorKind} (one : p.Blocks classes rest kind)
    (two : p.Blocks classes rest kind') (unflagged : kind ≠ .flagConflict)
    (unflagged' : kind' ≠ .flagConflict) : kind = kind' := by
  cases one with
  | zeroAfterPair => exact absurd rfl unflagged
  | zeroSpacing grouped =>
    cases two with
    | zeroAfterPair => exact absurd rfl unflagged'
    | zeroSpacing => rfl
    | letter _ ungrouped | symbol ungrouped => rw [grouped] at ungrouped; cases ungrouped
  | letter _ ungrouped same letter =>
    cases two with
    | zeroAfterPair => exact absurd rfl unflagged'
    | zeroSpacing grouped => rw [grouped] at ungrouped; cases ungrouped
    | letter => rfl
    | symbol _ same' unknown =>
      rw [same] at same'
      cases same'
      simp [Unicode.Classes.letterOrNumeral, letter] at unknown
  | symbol ungrouped same unknown =>
    cases two with
    | zeroAfterPair => exact absurd rfl unflagged'
    | zeroSpacing grouped => rw [grouped] at ungrouped; cases ungrouped
    | symbol => rfl
    | letter _ _ same' letter =>
      rw [same] at same'
      cases same'
      simp [Unicode.Classes.letterOrNumeral, letter] at unknown

end Pattern

end Numeral
