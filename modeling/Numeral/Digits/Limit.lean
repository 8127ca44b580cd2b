import Numeral.Digits

namespace Numeral

-- Powers are those of the core library, whatever else is imported.
attribute [local instance (high)] instPowNat

/-- Why a number is not read from its digits, or has no digits in base ten: there are too many of
them. How many there are is known only where they are read. -/
inductive DigitError where
  | tooLong (count : Nat)
  | tooLarge
  deriving DecidableEq

namespace Digits

/-- The number of digits in base ten up to which numbers are read and written. Leading zeros count
as well. -/
def limit : Nat :=
  4300

/-- The number that a run of at most `most` digits denotes. -/
def read (most : Nat) (ds : Digits 10) : Except DigitError Nat :=
  if ds.length ≤ most then .ok ds.value else .error (.tooLong ds.length)

/-- The digits of a number that has at most `most` of them. -/
def written (most n : Nat) : Except DigitError (Digits 10) :=
  if n < 10 ^ most then .ok (decimal n) else .error .tooLarge

theorem read_eq_ok_iff {most : Nat} {ds : Digits 10} {n : Nat} :
    read most ds = .ok n ↔ ds.length ≤ most ∧ ds.value = n := by
  unfold read
  split
  · next few => exact ⟨fun ok => ⟨few, Except.ok.inj ok⟩, fun ok => congrArg _ ok.2⟩
  · next many => exact ⟨nofun, fun ok => absurd ok.1 many⟩

theorem written_eq_ok_iff {most n : Nat} {ds : Digits 10} :
    written most n = .ok ds ↔ n < 10 ^ most ∧ decimal n = ds := by
  unfold written
  split
  · next few => exact ⟨fun ok => ⟨few, Except.ok.inj ok⟩, fun ok => congrArg _ ok.2⟩
  · next many => exact ⟨nofun, fun ok => absurd ok.1 many⟩

theorem limit_pos : 0 < limit := by
  decide

end Digits

def DigitError.message (e : DigitError) : String :=
  let found :=
    match e with
    | .tooLong count => ": value has " ++ String.ofList (decimalText count) ++ " digits"
    | .tooLarge => ""
  "Exceeds the limit (" ++ String.ofList (decimalText Digits.limit) ++
    " digits) for integer string conversion" ++ found ++
    "; use sys.set_int_max_str_digits() to increase the limit"

end Numeral
