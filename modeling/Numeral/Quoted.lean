import Numeral.Digits
import Numeral.Unicode.Classes

namespace Numeral.Quoted

def apostrophe : Char :=
  '\x27'

def doubleQuote : Char :=
  '\x22'

def backslash : Char :=
  '\x5c'

/-- The last `width` hexadecimal digits of `n`, in lower case. -/
def hex (width n : Nat) : List Char :=
  (Digits.last (b := 16) (by decide) width n).map (digitChar 'a')

/-- The mark around a text: the double quote only if the text holds apostrophes and no double
quote, so that it spares escapes and costs none. -/
def mark (s : List Char) : Char :=
  if apostrophe ∈ s ∧ doubleQuote ∉ s then doubleQuote else apostrophe

theorem mark_eq (s : List Char) : mark s = apostrophe ∨ mark s = doubleQuote := by
  unfold mark
  split
  · exact Or.inr rfl
  · exact Or.inl rfl

/-- One character within a quoted text. A code point that does not print is written in hexadecimal,
with as many digits as its escape letter announces. -/
def escape (printable : Char → Bool) (quote c : Char) : List Char :=
  if c = quote ∨ c = backslash then [backslash, c]
  else if c = '\n' then [backslash, 'n']
  else if c = '\r' then [backslash, 'r']
  else if c = '\t' then [backslash, 't']
  else if printable c then [c]
  else if c.toNat < 0x100 then backslash :: 'x' :: hex 2 c.toNat
  else if c.toNat < 0x10000 then backslash :: 'u' :: hex 4 c.toNat
  else backslash :: 'U' :: hex 8 c.toNat

/-- A text between quotation marks, for any classification of printable characters. -/
def write (printable : Char → Bool) (s : List Char) : List Char :=
  mark s :: (s.flatMap (escape printable (mark s)) ++ [mark s])

/-- A text between quotation marks. -/
def text (s : List Char) : List Char :=
  write Unicode.printable s

/-- Bytes as a quoted text after the letter `b`; outside printable ASCII they are escaped. -/
def bytes (bs : List UInt8) : List Char :=
  'b' :: write (fun c => 0x20 ≤ c.toNat && c.toNat < 0x7f) (bs.map fun b => Char.ofNat b.toNat)

end Numeral.Quoted
