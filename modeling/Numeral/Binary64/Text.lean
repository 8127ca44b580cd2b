import Numeral.Binary64.Shortest

namespace Numeral.Binary64

/-- A decimal exponent with its sign and at least two digits. -/
def exponentText (e : Int) : List Char :=
  let digits := decimalText e.natAbs
  (if e < 0 then '-' else '+') :: (List.replicate (2 - digits.length) '0' ++ digits)

/-- A decimal with one digit before the point and its exponent. -/
def scientific (digits : List Char) (e : Int) : List Char :=
  match digits with
  | [] => []
  | [d] => d :: 'e' :: exponentText e
  | d :: rest => d :: '.' :: (rest ++ 'e' :: exponentText e)

/-- A decimal written out, with at least one digit on both sides of the point. -/
def positional (digits : List Char) (power : Int) : List Char :=
  let before := digits.length + power
  if 0 ≤ power then digits ++ List.replicate power.toNat '0' ++ ['.', '0']
  else if 0 < before then digits.take before.toNat ++ '.' :: digits.drop before.toNat
  else '0' :: '.' :: (List.replicate (-before).toNat '0' ++ digits)

/-- The shortest text that reads back as `x`. It is written out if the first digit stands for
`10 ^ (-4)` up to `10 ^ 15`. -/
def text (x : Binary64) : List Char :=
  if x.isNaN then ['n', 'a', 'n']
  else
    let sign := if x.signBit then ['-'] else []
    if x.isInfinite then sign ++ ['i', 'n', 'f']
    else
      let d := x.shortest
      let digits := decimalText d.coefficient
      let e := d.exponent + digits.length - 1
      sign ++ if -4 ≤ e ∧ e < 16 then positional digits d.exponent else scientific digits e

end Numeral.Binary64
