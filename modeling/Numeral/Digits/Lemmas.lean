import Mathlib.Algebra.Group.Nat.Defs
import Numeral.Digits

namespace Numeral

namespace Digits

theorem value_append {b : Nat} (ds es : Digits b) :
    value (ds ++ es) = value ds * b ^ es.length + value es := by
  have fold : ∀ (es : Digits b) (n : Nat),
      es.foldl (fun n (d : Fin b) => n * b + d.val) n = n * b ^ es.length + value es := by
    intro es
    induction es with
    | nil => intro n; simp [value]
    | cons d es ih =>
      intro n
      have first := ih (n * b + d.val)
      have second := ih (0 * b + d.val)
      simp only [value, List.foldl_cons, List.length_cons] at first second ⊢
      rw [first, second, Nat.pow_succ', Nat.add_mul, Nat.zero_mul, Nat.zero_add, Nat.mul_assoc]
      omega
  rw [value, List.foldl_append]
  exact fold es _

theorem value_singleton {b : Nat} (d : Fin b) : value [d] = d.val := by
  simp [value]

theorem value_cons {b : Nat} (d : Fin b) (ds : Digits b) :
    value (d :: ds) = d.val * b ^ ds.length + value ds := by
  have split := value_append [d] ds
  rwa [value_singleton] at split

theorem value_lt {b : Nat} (ds : Digits b) : value ds < b ^ ds.length := by
  induction ds with
  | nil => simp [value]
  | cons d ds ih =>
    rw [value_cons, List.length_cons, Nat.pow_succ']
    calc d.val * b ^ ds.length + value ds < d.val * b ^ ds.length + b ^ ds.length := by omega
      _ = (d.val + 1) * b ^ ds.length := by rw [Nat.succ_mul]
      _ ≤ b * b ^ ds.length := Nat.mul_le_mul_right _ d.isLt

theorem ofNatBefore_eq_append {b : Nat} (base : 2 ≤ b) (n : Nat) (rest : Digits b) :
    ofNatBefore base n rest = ofNat base n ++ rest := by
  rw [ofNat]
  induction n using Nat.strongRecOn generalizing rest with
  | _ n ih =>
    rw [ofNatBefore, ofNatBefore.eq_1 base n []]
    by_cases small : n < b
    · rw [dif_pos small, dif_pos small]
      rfl
    · have less : n / b < n := Nat.div_lt_self (by omega) base
      rw [dif_neg small, dif_neg small, ih _ less, ih _ less [_], List.append_assoc]
      rfl

theorem ofNat_of_lt {b : Nat} (base : 2 ≤ b) {n : Nat} (small : n < b) :
    ofNat base n = [⟨n, small⟩] := by
  rw [ofNat, ofNatBefore, dif_pos small]

theorem ofNat_of_le {b : Nat} (base : 2 ≤ b) {n : Nat} (large : b ≤ n) :
    ofNat base n = ofNat base (n / b) ++ [⟨n % b, Nat.mod_lt _ (Nat.zero_lt_of_lt base)⟩] := by
  rw [ofNat, ofNatBefore, dif_neg (by omega), ofNatBefore_eq_append]

theorem value_ofNat {b : Nat} (base : 2 ≤ b) (n : Nat) : value (ofNat base n) = n := by
  induction n using Nat.strongRecOn with
  | _ n ih =>
    by_cases small : n < b
    · rw [ofNat_of_lt base small, value_singleton]
    · rw [ofNat_of_le base (by omega), value_append, ih _ (Nat.div_lt_self (by omega) base),
        value_singleton]
      simp only [List.length_singleton, Nat.pow_one]
      exact Nat.div_add_mod' n b

theorem ofNat_ne_nil {b : Nat} (base : 2 ≤ b) (n : Nat) : ofNat base n ≠ [] := by
  by_cases small : n < b
  · simp [ofNat_of_lt base small]
  · simp [ofNat_of_le base (Nat.le_of_not_lt small)]

/-- Only zero itself is written with a leading zero. -/
theorem head_ofNat {b : Nat} (base : 2 ≤ b) {n : Nat} (positive : 0 < n) :
    ∃ d ds, ofNat base n = d :: ds ∧ 0 < d.val := by
  induction n using Nat.strongRecOn with
  | _ n ih =>
    by_cases small : n < b
    · exact ⟨⟨n, small⟩, [], ofNat_of_lt base small, positive⟩
    · have quotient : 0 < n / b := Nat.div_pos (by omega) (by omega)
      obtain ⟨d, ds, written, leading⟩ := ih _ (Nat.div_lt_self positive base) quotient
      exact ⟨d, ds ++ [_], by rw [ofNat_of_le base (by omega), written]; rfl, leading⟩

/-- Runs of one length that denote the same number are the same. -/
theorem eq_of_value_eq {b : Nat} {ds es : Digits b} (length : ds.length = es.length)
    (same : value ds = value es) : ds = es := by
  induction ds generalizing es with
  | nil => exact (List.length_eq_zero_iff.mp length.symm).symm
  | cons d ds ih =>
    cases es with
    | nil => simp at length
    | cons e es =>
      simp only [List.length_cons, Nat.add_right_cancel_iff] at length
      rw [value_cons, value_cons, ← length] at same
      have lower := value_lt ds
      have upper := length ▸ value_lt es
      have positive : 0 < b ^ ds.length := by omega
      have digit : d.val = e.val := by
        have left := Nat.add_mul_div_right (value ds) d.val positive
        have right := Nat.add_mul_div_right (value es) e.val positive
        rw [Nat.div_eq_of_lt lower, Nat.add_comm, same] at left
        rw [Nat.div_eq_of_lt upper, Nat.add_comm] at right
        omega
      rw [digit] at same
      rw [Fin.ext digit, ih length (Nat.add_left_cancel same)]

theorem pow_le_value {b : Nat} {d : Fin b} {ds : Digits b} (leading : 0 < d.val) :
    b ^ ds.length ≤ value (d :: ds) := by
  rw [value_cons]
  have least := Nat.mul_le_mul_right (b ^ ds.length) leading
  omega

/-- A run without a leading zero is the way in which its value is written. -/
theorem ofNat_value {b : Nat} (base : 2 ≤ b) {d : Fin b} {ds : Digits b} (leading : 0 < d.val) :
    ofNat base (value (d :: ds)) = d :: ds := by
  have positive : 0 < value (d :: ds) :=
    Nat.lt_of_lt_of_le (Nat.pow_pos (by omega)) (pow_le_value leading)
  obtain ⟨e, es, written, leading'⟩ := head_ofNat base positive
  have same : value (e :: es) = value (d :: ds) := by rw [← written, value_ofNat]
  rw [written]
  refine eq_of_value_eq ?_ same
  have dLow : b ^ ds.length ≤ value (d :: ds) := pow_le_value leading
  have eLow : b ^ es.length ≤ value (e :: es) := pow_le_value leading'
  have dHigh := value_lt (d :: ds)
  have eHigh := value_lt (e :: es)
  have dLess := (Nat.pow_lt_pow_iff_right (by omega : 1 < b)).mp
    (Nat.lt_of_le_of_lt dLow (same ▸ eHigh))
  have eLess := (Nat.pow_lt_pow_iff_right (by omega : 1 < b)).mp
    (Nat.lt_of_le_of_lt eLow (same ▸ dHigh))
  simp only [List.length_cons] at dLess eLess ⊢
  omega

theorem ofNat_inj {b : Nat} (base : 2 ≤ b) {m n : Nat} : ofNat base m = ofNat base n ↔ m = n := by
  refine ⟨fun same => ?_, fun same => by rw [same]⟩
  rw [← value_ofNat base m, same, value_ofNat]

theorem lt_pow_length_decimal (n : Nat) : n < 10 ^ (decimal n).length := by
  have below := value_lt (decimal n)
  rwa [decimal, value_ofNat] at below

/-- The first digit of a number other than zero counts. -/
theorem pow_length_decimal_le {n : Nat} (positive : 0 < n) :
    10 ^ ((decimal n).length - 1) ≤ n := by
  obtain ⟨d, ds, written, leading⟩ := head_ofNat (b := 10) (by decide) positive
  have least : 10 ^ ds.length ≤ value (d :: ds) := pow_le_value leading
  rw [← written, value_ofNat] at least
  rwa [decimal, written, List.length_cons, Nat.add_sub_cancel]

/-- A number below a power of ten has no more digits than that power has zeros. -/
theorem length_decimal_le {n k : Nat} (positive : 0 < k) (below : n < 10 ^ k) :
    (decimal n).length ≤ k := by
  by_cases zero : n = 0
  · have single : decimal n = [⟨n, by omega⟩] := ofNat_of_lt (by decide) (by omega)
    rw [single]
    exact positive
  · have least := pow_length_decimal_le (Nat.pos_of_ne_zero zero)
    have shorter :=
      (Nat.pow_lt_pow_iff_right (by decide : 1 < 10)).mp (Nat.lt_of_le_of_lt least below)
    omega

theorem length_lastBefore {b : Nat} (positive : 0 < b) (k n : Nat) (rest : Digits b) :
    (lastBefore positive k n rest).length = k + rest.length := by
  induction k generalizing n rest with
  | zero => simp [lastBefore]
  | succ k ih => rw [lastBefore, ih, List.length_cons]; omega

theorem length_last {b : Nat} (positive : 0 < b) (k n : Nat) :
    (last positive k n).length = k := by
  rw [last, length_lastBefore]
  rfl

theorem value_lastBefore {b : Nat} (positive : 0 < b) (k n : Nat) (rest : Digits b) :
    value (lastBefore positive k n rest) = n % b ^ k * b ^ rest.length + value rest := by
  induction k generalizing n rest with
  | zero => simp [lastBefore, Nat.mod_one]
  | succ k ih =>
    rw [lastBefore, ih, value_cons, List.length_cons, Nat.pow_succ' (n := rest.length),
      ← Nat.mul_assoc, ← Nat.add_assoc, ← Nat.add_mul, Nat.pow_succ' (n := k), Nat.mod_mul,
      Nat.add_comm, Nat.mul_comm b]
    simp only [Nat.add_comm, Nat.mul_comm]

theorem value_last {b : Nat} (positive : 0 < b) (k n : Nat) :
    value (last positive k n) = n % b ^ k := by
  rw [last, value_lastBefore]
  simp [value]

end Digits

theorem Digit.ofChar?_char (d : Digit) : Digit.ofChar? d.char = some d := by
  revert d
  decide

theorem Digit.ofChar?_eq_some_iff {c : Char} {d : Digit} :
    Digit.ofChar? c = some d ↔ c = d.char := by
  refine ⟨fun read => ?_, fun same => by rw [same, Digit.ofChar?_char]⟩
  unfold Digit.ofChar? at read
  split at read
  · next range =>
    cases read
    have sum : 48 + (c.toNat - 48) = c.toNat := by omega
    simp only [Digit.char, digitChar]
    rw [if_pos (by omega), sum, Char.ofNat_toNat]
  · cases read

theorem Digit.ofChar?_eq_none_iff {c : Char} :
    Digit.ofChar? c = none ↔ ∀ d : Digit, d.char ≠ c := by
  rw [Option.eq_none_iff_forall_ne_some]
  exact forall_congr' fun d => not_congr (Digit.ofChar?_eq_some_iff.trans eq_comm)

namespace Digits

/-- Whether a text goes on with a decimal digit. -/
def goesOn : List Char → Bool
  | [] => false
  | c :: _ => (Digit.ofChar? c).isSome

theorem scan_eq (cs : List Char) : (scan cs).1.chars ++ (scan cs).2 = cs := by
  induction cs with
  | nil => rfl
  | cons c rest ih =>
    rw [scan]
    split
    · next d read =>
      rw [Digit.ofChar?_eq_some_iff.mp read]
      exact congrArg (Digit.char d :: ·) ih
    · rfl

theorem goesOn_scan (cs : List Char) : goesOn (scan cs).2 = false := by
  induction cs with
  | nil => rfl
  | cons c rest ih =>
    rw [scan]
    split
    · exact ih
    · next stop => simp [goesOn, stop]

/-- A run is read back from its text, unless what follows goes on with a digit. -/
theorem scan_chars_append (ds : Digits 10) {rest : List Char} (ends : goesOn rest = false) :
    scan (ds.chars ++ rest) = (ds, rest) := by
  induction ds with
  | nil =>
    cases rest with
    | nil => rfl
    | cons c rest =>
      have stop : Digit.ofChar? c = none := by simpa [goesOn] using ends
      simp [chars, scan, stop]
  | cons d ds ih =>
    have step : scan (Digit.char d :: (chars ds ++ rest)) =
        (d :: (scan (chars ds ++ rest)).1, (scan (chars ds ++ rest)).2) := by
      rw [scan, Digit.ofChar?_char]
    exact step.trans (by rw [ih])

theorem scan_ne_nil_iff {cs : List Char} : (scan cs).1 ≠ [] ↔ goesOn cs = true := by
  cases cs with
  | nil => simp [scan, goesOn]
  | cons c rest =>
    rw [scan, goesOn]
    cases Digit.ofChar? c <;> simp

/-- The run at the front of a piece is a piece of the run at the front of the whole. -/
theorem scan_front {short long : List Char} (front : short <+: long) :
    (scan short).1 <+: (scan long).1 := by
  induction short generalizing long with
  | nil => exact List.nil_prefix
  | cons c short ih =>
    obtain ⟨after, rfl⟩ := front
    have shorter := ih (List.prefix_append short after)
    rw [List.cons_append, scan, scan]
    cases Digit.ofChar? c with
    | none => exact List.nil_prefix
    | some d => exact List.cons_prefix_cons.mpr ⟨rfl, shorter⟩

theorem value_eq_zero_of_front {b : Nat} {ds es : Digits b} (positive : 0 < b) (front : ds <+: es)
    (zero : value es = 0) : value ds = 0 := by
  obtain ⟨after, rfl⟩ := front
  rw [value_append] at zero
  have scaled := Nat.eq_zero_of_add_eq_zero_right zero
  exact (Nat.mul_eq_zero.mp scaled).resolve_right (Nat.ne_of_gt (Nat.pow_pos positive))

end Digits

end Numeral
