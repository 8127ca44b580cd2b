namespace Numeral

/-- The digits of a number in base `b`, the most significant one first. -/
abbrev Digits (b : Nat) := List (Fin b)

/-- A decimal digit. -/
abbrev Digit := Fin 10

namespace Digits

/-- The number that a run of digits denotes; the empty run denotes zero. -/
def value {b : Nat} (ds : Digits b) : Nat :=
  ds.foldl (fun n (d : Fin b) => n * b + d.val) 0

/-- Writes the digits of `n` in front of `rest`. The base is at least two, so the quotient is
smaller than a number that has more than one digit. -/
def ofNatBefore {b : Nat} (base : 2 ≤ b) (n : Nat) (rest : Digits b) : Digits b :=
  if small : n < b then ⟨n, small⟩ :: rest
  else ofNatBefore base (n / b) (⟨n % b, Nat.mod_lt _ (by omega)⟩ :: rest)
termination_by n
decreasing_by exact Nat.div_lt_self (by omega) base

/-- The digits of `n` without a leading zero; zero itself has one digit. -/
def ofNat {b : Nat} (base : 2 ≤ b) (n : Nat) : Digits b :=
  ofNatBefore base n []

/-- Writes the last `k` digits of `n` in front of `rest`, zeros included. -/
def lastBefore {b : Nat} (positive : 0 < b) : Nat → Nat → Digits b → Digits b
  | 0, _, rest => rest
  | k + 1, n, rest => lastBefore positive k (n / b) (⟨n % b, Nat.mod_lt _ positive⟩ :: rest)

/-- The last `k` digits of `n`: exactly `k` of them, whatever the size of `n`. -/
def last {b : Nat} (positive : 0 < b) (k n : Nat) : Digits b :=
  lastBefore positive k n []

/-- The decimal digits of `n`. -/
def decimal (n : Nat) : Digits 10 :=
  ofNat (by decide) n

end Digits

/-- The character of a digit: `0` to `9`, then letters counted from `ten`. -/
def digitChar (ten : Char) {b : Nat} (d : Fin b) : Char :=
  if d.val < 10 then Char.ofNat (48 + d.val) else Char.ofNat (ten.toNat + (d.val - 10))

/-- The character of a decimal digit. -/
def Digit.char (d : Digit) : Char :=
  digitChar 'a' d

/-- Reads the ten digits of ASCII and no other character, whatever its numeric value. -/
def Digit.ofChar? (c : Char) : Option Digit :=
  if h : 48 ≤ c.toNat ∧ c.toNat < 58 then some ⟨c.toNat - 48, by omega⟩ else none

/-- The longest run of decimal digits at the front of a text, and what follows it. -/
def Digits.scan : List Char → Digits 10 × List Char
  | [] => ([], [])
  | c :: rest =>
    match Digit.ofChar? c with
    | some d =>
      let (run, after) := Digits.scan rest
      (d :: run, after)
    | none => ([], c :: rest)

/-- The text of a run of decimal digits. -/
def Digits.chars (ds : Digits 10) : List Char :=
  ds.map Digit.char

/-- The text of a natural number in base ten. -/
def decimalText (n : Nat) : List Char :=
  (Digits.decimal n).chars

/-- The text of an integer in base ten, with a minus sign below zero. -/
def integerText (n : Int) : List Char :=
  if n < 0 then '-' :: decimalText n.natAbs else decimalText n.natAbs

end Numeral
