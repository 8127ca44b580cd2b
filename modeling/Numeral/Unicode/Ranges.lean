namespace Numeral.Unicode

/-- A class of code points: inclusive ranges, in ascending order. -/
abbrev Ranges := List (Nat × Nat)

def Ranges.contains (ranges : Ranges) (c : Char) : Bool :=
  ranges.any fun range => range.1 ≤ c.toNat && c.toNat ≤ range.2

end Numeral.Unicode
