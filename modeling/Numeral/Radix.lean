import Numeral.Digits

namespace Numeral

/-- The base in which integral digits are written. The two hexadecimal ones differ in the case of
their letters alone. -/
inductive Radix where
  | binary
  | octal
  | decimal
  | hexLower
  | hexUpper
  deriving DecidableEq

namespace Radix

def all : List Radix :=
  [.binary, .octal, .decimal, .hexLower, .hexUpper]

/-- The letter that stands for the base in a pattern. -/
def code : Radix → Char
  | .binary => 'b'
  | .octal => 'o'
  | .decimal => 'd'
  | .hexLower => 'x'
  | .hexUpper => 'X'

def ofCode? (c : Char) : Option Radix :=
  all.find? (·.code = c)

theorem ofCode?_code (r : Radix) : ofCode? r.code = some r := by
  cases r <;> rfl

theorem code_inj {r t : Radix} : r.code = t.code ↔ r = t := by
  refine ⟨fun same => ?_, fun same => by rw [same]⟩
  have found := ofCode?_code r
  rw [same, ofCode?_code] at found
  exact (Option.some.inj found).symm

theorem ofCode?_eq_some_iff {c : Char} {r : Radix} : ofCode? c = some r ↔ c = r.code := by
  refine ⟨fun found => ?_, fun same => by rw [same, ofCode?_code]⟩
  have here := List.find?_some found
  exact (of_decide_eq_true here).symm

def base : Radix → Nat
  | .binary => 2
  | .octal => 8
  | .decimal => 10
  | .hexLower | .hexUpper => 16

theorem two_le_base (r : Radix) : 2 ≤ r.base := by
  cases r <;> decide

/-- What announces the base in front of the digits. It is lower case for both hexadecimal
bases. -/
def marker : Radix → List Char
  | .binary => ['0', 'b']
  | .octal => ['0', 'o']
  | .decimal => ['0', 'd']
  | .hexLower | .hexUpper => ['0', 'x']

/-- The letter for the digit ten. -/
def ten : Radix → Char
  | .hexUpper => 'A'
  | _ => 'a'

/-- The text of `n` in this base, without a leading zero. -/
def text (r : Radix) (n : Nat) : List Char :=
  (Digits.ofNat r.two_le_base n).map (digitChar r.ten)

end Radix

end Numeral
