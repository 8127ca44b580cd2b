namespace Numeral

/-- The natural number nearest to `n / d`; a tie goes to the even one. -/
def roundHalfEven (n d : Nat) : Nat :=
  let q := n / d
  let twice := 2 * (n % d)
  if d < twice ∨ twice = d ∧ q % 2 = 1 then q + 1 else q

theorem roundHalfEven_le (n d : Nat) : roundHalfEven n d ≤ n / d + 1 := by
  simp only [roundHalfEven]
  split <;> omega

/-- Rounding moves a quotient by at most one half. -/
theorem roundHalfEven_near (n : Nat) {d : Nat} (positive : 0 < d) :
    2 * n ≤ (2 * roundHalfEven n d + 1) * d ∧ 2 * (roundHalfEven n d * d) ≤ 2 * n + d := by
  have whole := Nat.div_add_mod' n d
  have remainder := Nat.mod_lt n positive
  simp only [roundHalfEven]
  split
  · simp only [Nat.add_mul, Nat.mul_add, Nat.mul_assoc]
    omega
  · simp only [Nat.add_mul, Nat.mul_assoc]
    omega

/-- Of two equally near numbers the even one is chosen. -/
theorem roundHalfEven_even {n d : Nat} (positive : 0 < d)
    (tie : 2 * n = (2 * roundHalfEven n d + 1) * d ∨ 2 * (roundHalfEven n d * d) = 2 * n + d) :
    roundHalfEven n d % 2 = 0 := by
  have whole := Nat.div_add_mod' n d
  have remainder := Nat.mod_lt n positive
  simp only [roundHalfEven] at tie ⊢
  split at tie <;> simp only [Nat.add_mul, Nat.mul_add, Nat.mul_assoc] at tie <;>
    split <;> omega

theorem roundHalfEven_mul_right (n : Nat) {d : Nat} (positive : 0 < d) :
    roundHalfEven (n * d) d = n := by
  simp [roundHalfEven, Nat.mul_div_cancel _ positive, Nat.ne_of_lt positive]

end Numeral
