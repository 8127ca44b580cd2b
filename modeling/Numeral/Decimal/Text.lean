import Numeral.Decimal.Limits
import Numeral.Unicode.Blanks
import Numeral.Unicode.Zeros

namespace Numeral

-- Powers are those of the core library, whatever else is imported.
attribute [local instance (high)] instPowNat

/-- What a text says about the magnitude of a number. A NaN keeps its sign and the number that
follows its name; one that signals stops the arithmetic that meets it. -/
inductive DecimalText where
  | finite (x : Decimal)
  | infinite
  | nan (signaling negative : Bool) (payload : Nat)
  deriving DecidableEq

namespace DecimalText

/-- Drops surrounding blanks, and underscores anywhere, and writes the digits of every script as
those of ASCII. -/
def tidy (cs : List Char) : List Char :=
  let front := cs.dropWhile Unicode.blanks.contains
  let inner := (front.reverse.dropWhile Unicode.blanks.contains).reverse
  (inner.filter (· ≠ '_')).map fun c => ((Unicode.digit? c).map Digit.char).getD c

/-- Takes a sign off the front and says whether it was a minus. -/
def sign : List Char → Bool × List Char
  | '-' :: rest => (true, rest)
  | '+' :: rest => (false, rest)
  | cs => (false, cs)

/-- The digits after a point, if there is one. -/
def fraction : List Char → Digits 10 × List Char
  | '.' :: rest => Digits.scan rest
  | cs => ([], cs)

/-- The exponent that a text consists of; the empty text is the exponent zero. -/
def exponent : List Char → Option Int
  | [] => some 0
  | c :: cs =>
    if c = 'e' ∨ c = 'E' then
      let (negative, rest) := sign cs
      match Digits.scan rest with
      | (d :: ds, []) =>
        let n := Digits.value (d :: ds)
        some (if negative then -n else n)
      | _ => none
    else none

/-- Reads a decimal in plain or scientific notation. There is a digit before or after the point. -/
def magnitude (cs : List Char) : Option Decimal :=
  let (whole, rest) := Digits.scan cs
  let (places, rest) := fraction rest
  if whole = [] ∧ places = [] then none
  else (exponent rest).map fun e => ⟨Digits.value (whole ++ places), e - places.length⟩

/-- Reads the number that follows the name of a NaN. -/
def payload (signaling negative : Bool) (cs : List Char) : Option DecimalText :=
  match Digits.scan cs with
  | (run, []) => some (.nan signaling negative run.value)
  | _ => none

/-- Reads the name of a number without digits, in any case. -/
def special (negative : Bool) (cs : List Char) : Option DecimalText :=
  let name := cs.map Char.toLower
  if name = "inf".toList ∨ name = "infinity".toList then some .infinite
  else
    match name with
    | 'n' :: 'a' :: 'n' :: rest => payload false negative rest
    | 's' :: 'n' :: 'a' :: 'n' :: rest => payload true negative rest
    | _ => none

/-- The decimals that have a text. -/
def textLimits : DecimalLimits where
  precision := 999999999999999999
  least := -999999999999999999
  greatest := 999999999999999999

/-- Reads the text of a number. The sign of a number with digits is left out. -/
def read? (text : String) : Option DecimalText :=
  let (negative, cs) := sign (tidy text.toList)
  match magnitude cs with
  | some x => if textLimits.Holds x then some (.finite x) else none
  | none => special negative cs

/-- What arithmetic of limited size makes of a text. Of the number that follows the name of a NaN
it keeps the last digits. -/
def within (limits : DecimalLimits) : DecimalText → Except DecimalCondition DecimalText
  | .finite x => (limits.round x).map .finite
  | .infinite => .ok .infinite
  | .nan true _ _ => .error .invalidOperation
  | .nan false negative payload => .ok (.nan false negative (payload % 10 ^ limits.precision))

/-- The name of a NaN with its sign and its number, if that is not zero. -/
def nanText (negative : Bool) (payload : Nat) : List Char :=
  (if negative then ['-'] else []) ++ "NaN".toList ++
    if payload = 0 then [] else decimalText payload

end DecimalText

end Numeral
