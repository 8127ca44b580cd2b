import Numeral.Quoted
import Numeral.Radix

namespace Numeral.Label

/-- The number of characters of a value that a label shows unless told otherwise. -/
def limit : Int :=
  80

/-- Puts a backslash before every `>`, so that the bracket that closes a label stands out. -/
def shield (s : List Char) : List Char :=
  s.flatMap fun c => if c = '>' then [Quoted.backslash, '>'] else [c]

theorem shield_append (s t : List Char) : shield (s ++ t) = shield s ++ shield t :=
  List.flatMap_append

theorem shield_eq_self {s : List Char} (bare : ∀ c ∈ s, c ≠ '>') : shield s = s := by
  induction s with
  | nil => rfl
  | cons c s ih =>
    have others := ih fun d member => bare d (List.mem_cons_of_mem _ member)
    show (if c = '>' then [Quoted.backslash, '>'] else [c]) ++ shield s = c :: s
    rw [if_neg (bare c List.mem_cons_self), others]
    rfl

/-- Cuts a text that is longer than `limit` and ends it with three dots. The dots are written even
where the limit leaves no room for them. -/
def clip (limit : Int) (s : List Char) : List Char :=
  if limit < s.length then s.take (limit - 3).toNat ++ ['.', '.', '.'] else s

theorem length_clip_le (limit : Int) (s : List Char) :
    ((clip limit s).length : Int) ≤ max limit 3 := by
  unfold clip
  split
  · simp only [List.length_append, List.length_take, List.length_cons, List.length_nil]
    omega
  · omega

theorem clip_of_le {limit : Int} {s : List Char} (fits : s.length ≤ limit) : clip limit s = s := by
  rw [clip, if_neg (by omega)]

/-- The label of a value by its kind and its text. -/
def value (kind : String) (limit : Int) (shown : List Char) : List Char :=
  '<' :: (kind.toList ++ ':' :: ' ' :: (clip limit (shield shown) ++ ['>']))

/-- The label of a kind. -/
def kind (name : String) : List Char :=
  "<type: ".toList ++ name.toList ++ ['>']

/-- The label of a text. -/
def text (s : List Char) (limit : Int) : List Char :=
  value "str" limit (Quoted.text s)

/-- A code point in hexadecimal, with at least four digits. -/
def codePoint (c : Char) : List Char :=
  let digits := Radix.hexUpper.text c.toNat
  'U' :: '+' :: (List.replicate (4 - digits.length) '0' ++ digits)

/-- A character with its code point. -/
def char (c : Char) : List Char :=
  Quoted.text [c] ++ ' ' :: '(' :: (codePoint c ++ [')'])

end Numeral.Label
